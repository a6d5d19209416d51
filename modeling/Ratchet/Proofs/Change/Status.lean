import Ratchet.Change.Status

namespace Ratchet

namespace Status

/-!
# What a status tells of its entries

The entries that the status command writes are the entries that are read.
This does not go without saying: an entry about a moved path takes up two
pieces of the output, a piece that is too short stands for no entry, and the
path that a moved one came from may look like an entry itself.  But the code
in front of an entry says how many pieces belong to it, so reading stays in
step with writing, whatever the paths are.

A status therefore lists the paths of its entries by their codes.  The codes
say of each path what became of it in the index and in the working tree, and
the lists ask for both apart.  So a file that is gone from the working tree is
listed all the same if the index holds it as added, changed or moved.
-/

namespace Code

/-- The file is gone from the working tree: it was removed there, or was
removed from the index and has not come back. -/
def isGone (code : Code) : Bool :=
  code.tree == 'D' || code == ⟨'D', ' '⟩

/-- The path is new: it was added, or it is where a moved one went. -/
def creates (code : Code) : Bool :=
  code.isMove || code.index == 'A'

/-- The path has changed.  A moved path is asked about the working tree
only. -/
def modifies (code : Code) : Bool :=
  if code.isMove then code.tree == 'M' else !code.isUntracked && code.has 'M'

/-- What the code of an unknown path is not, tells a path that is known. -/
theorem isUntracked_eq_false_of {test : Code → Bool} {code : Code} (passes : test code = true)
    (apart : test ⟨'?', '?'⟩ = false) : code.isUntracked = false := by
  rw [isUntracked, beq_eq_false_iff_ne]
  rintro rfl
  rw [apart] at passes
  cases passes

end Code

namespace Entry

/-! ## Writing entries -/

/-- What became of the path. -/
def code : Entry → Code
  | .plain code _ | .move code .. => code

/-- The path that an entry is about; of a moved one, the new path. -/
def name : Entry → String
  | .plain _ path | .move _ path _ => String.ofList path

/-- A code, a blank and a path. -/
def line (code : Code) (path : List Char) : List Char :=
  code.index :: code.tree :: ' ' :: path

/-- What the status command writes about an entry. -/
def written : Entry → List Char
  | .plain code path => line code path ++ ['\x00']
  | .move code path former => line code path ++ '\x00' :: (former ++ ['\x00'])

/-- What the status command writes about some entries, one after the other. -/
def output (entries : List Entry) : String :=
  String.ofList (entries.flatMap written)

/-- An entry that the status command may write: its paths are free of the
character that ends them, its own path is not empty, and its code says whether
it has a former one.  Nothing is asked of that former path. -/
def WellFormed : Entry → Prop
  | .plain code path => code.isMove = false ∧ path ≠ [] ∧ '\x00' ∉ line code path
  | .move code path former =>
    code.isMove = true ∧ path ≠ [] ∧ '\x00' ∉ line code path ∧ '\x00' ∉ former

instance : DecidablePred WellFormed
  | .plain code path =>
    inferInstanceAs (Decidable (code.isMove = false ∧ path ≠ [] ∧ '\x00' ∉ line code path))
  | .move code path former =>
    inferInstanceAs (Decidable
      (code.isMove = true ∧ path ≠ [] ∧ '\x00' ∉ line code path ∧ '\x00' ∉ former))

/-! ## Reading what was written -/

theorem read?_line (code : Code) {path : List Char} (nonempty : path ≠ []) :
    read? (line code path) = some (code, path) := by
  cases path with
  | nil => exact absurd rfl nonempty
  | cons c rest => rfl

/-- An entry is read as a whole, whatever comes after it. -/
theorem readAll_written_append {entry : Entry} (wellFormed : entry.WellFormed)
    (rest : List Char) :
    readAll (Cut.pieces '\x00' (entry.written ++ rest)) =
      entry :: readAll (Cut.pieces '\x00' rest) := by
  cases entry with
  | plain code path =>
    rcases wellFormed with ⟨unmoved, nonempty, apart⟩
    have cut : Cut.pieces '\x00' ((plain code path).written ++ rest) =
        line code path :: Cut.pieces '\x00' rest := by
      rw [written, List.append_assoc]
      exact Cut.pieces_append_separator '\x00' apart rest
    rw [cut, readAll, read?_line code nonempty]
    simp only [unmoved, Bool.false_eq_true, if_false]
  | move code path former =>
    -- The former path is cut off whole, and never looked at.
    rcases wellFormed with ⟨moved, nonempty, apart, formerApart⟩
    have cut : Cut.pieces '\x00' ((move code path former).written ++ rest) =
        line code path :: former :: Cut.pieces '\x00' rest := by
      rw [written, List.append_assoc, List.cons_append, List.append_assoc,
        Cut.pieces_append_separator '\x00' apart]
      exact congrArg _ (Cut.pieces_append_separator '\x00' formerApart rest)
    rw [cut, readAll, read?_line code nonempty]
    simp only [moved, if_true]

/-- Reading undoes writing. -/
theorem readAll_written {entries : List Entry}
    (wellFormed : ∀ entry ∈ entries, entry.WellFormed) :
    readAll (Cut.pieces '\x00' (entries.flatMap written)) = entries := by
  induction entries with
  | nil => rfl
  | cons entry rest ih =>
    rw [List.flatMap_cons, readAll_written_append (wellFormed entry List.mem_cons_self)]
    have others := ih fun other member => wellFormed other (List.mem_cons_of_mem entry member)
    rw [others]

theorem parse_output {entries : List Entry} (wellFormed : ∀ entry ∈ entries, entry.WellFormed) :
    parse (output entries) = ofEntries entries := by
  rw [parse, output, String.toList_ofList, readAll_written wellFormed]

/-! ## What the codes say -/

theorem status_of_wellFormed {entry : Entry} (wellFormed : entry.WellFormed) :
    entry.status =
      ⟨if entry.code.creates then [entry.name] else [],
        if entry.code.modifies then [entry.name] else [],
        if entry.code.isUntracked then [entry.name] else []⟩ := by
  cases entry with
  | plain code path =>
    have unmoved := wellFormed.1
    by_cases unknown : code.isUntracked = true
    · -- The code of an unknown path is one code only.
      have same : code = ⟨'?', '?'⟩ := beq_iff_eq.mp unknown
      subst same
      rfl
    · simp [status, Entry.code, name, Code.creates, Code.modifies, unmoved, unknown]
  | move code path former =>
    have moved := wellFormed.1
    have known := Code.isUntracked_eq_false_of moved rfl
    by_cases changed : code.tree = 'M' <;>
      simp [status, Entry.code, name, Code.creates, Code.modifies, moved, known, changed]

end Entry

/-! ## The lists of a status -/

theorem clean_append (status : Status) : append clean status = status := by
  simp [append, clean]

theorem append_assoc (a b c : Status) : append (append a b) c = append a (append b c) := by
  simp [append]

/-- Only the clean status may be left out in front of another. -/
theorem append_eq_right_iff {a b : Status} : append a b = b ↔ a = clean := by
  constructor
  · intro same
    rcases a with ⟨created, modified, untracked⟩
    rcases b with ⟨_, _, _⟩
    simp only [append, mk.injEq, List.append_left_eq_self] at same
    rcases same with ⟨rfl, rfl, rfl⟩
    rfl
  · rintro rfl
    exact clean_append b

/-- What comes before makes no difference to whether two statuses are the
same. -/
theorem append_left_cancel_iff {a b c : Status} : append a b = append a c ↔ b = c := by
  constructor
  · intro same
    rcases b with ⟨_, _, _⟩
    rcases c with ⟨_, _, _⟩
    simp only [append, mk.injEq, List.append_cancel_left_eq] at same
    rcases same with ⟨rfl, rfl, rfl⟩
    rfl
  · rintro rfl
    rfl

theorem ofEntries_cons (entry : Entry) (rest : List Entry) :
    ofEntries (entry :: rest) = append entry.status (ofEntries rest) := rfl

theorem ofEntries_append (before after : List Entry) :
    ofEntries (before ++ after) = append (ofEntries before) (ofEntries after) := by
  induction before with
  | nil => exact (clean_append _).symm
  | cons entry rest ih => rw [List.cons_append, ofEntries_cons, ih, ofEntries_cons, append_assoc]

/-- A status lists the paths of its entries by their codes. -/
theorem ofEntries_of_wellFormed {entries : List Entry}
    (wellFormed : ∀ entry ∈ entries, entry.WellFormed) :
    ofEntries entries =
      ⟨(entries.filter (·.code.creates)).map Entry.name,
        (entries.filter (·.code.modifies)).map Entry.name,
        (entries.filter (·.code.isUntracked)).map Entry.name⟩ := by
  induction entries with
  | nil => rfl
  | cons entry rest ih =>
    have first := Entry.status_of_wellFormed (wellFormed entry List.mem_cons_self)
    have others := ih fun other member => wellFormed other (List.mem_cons_of_mem entry member)
    rw [ofEntries_cons, first, others, append]
    simp only [List.filter_cons]
    congr 1 <;> split <;> rfl

/-- Every path listed is the path of an entry. -/
theorem mem_names_of_mem_paths {entries : List Entry}
    (wellFormed : ∀ entry ∈ entries, entry.WellFormed) {path : String}
    (listed : path ∈ (ofEntries entries).paths) : path ∈ entries.map Entry.name := by
  have names (keep : Entry → Bool) :
      (entries.filter keep).map Entry.name ⊆ entries.map Entry.name :=
    List.map_subset _ List.filter_sublist.subset
  rw [ofEntries_of_wellFormed wellFormed, paths] at listed
  rcases List.mem_append.mp listed with changed | untracked
  · rcases List.mem_append.mp changed with created | modified
    · exact names _ created
    · exact names _ modified
  · exact names _ untracked

/-- What the status command writes about entries is read without a loss.  The
paths are listed by their codes and in the order of the entries, no path that
a moved one came from is among them, and wherever the output is divided
between two entries, what stands before and after is read as if alone. -/
theorem parse_output_lossless (entries : List Entry)
    (wellFormed : ∀ entry ∈ entries, entry.WellFormed) :
    let status := parse (Entry.output entries)
    status.created =
      (entries.filter fun entry => entry.code.isMove || entry.code.index == 'A').map Entry.name ∧
    status.modified =
      (entries.filter fun entry =>
        if entry.code.isMove then entry.code.tree == 'M'
        else !entry.code.isUntracked && entry.code.has 'M').map Entry.name ∧
    status.untracked = (entries.filter fun entry => entry.code.isUntracked).map Entry.name ∧
    (∀ path ∈ status.paths, path ∈ entries.map Entry.name) ∧
    ∀ before after, entries = before ++ after →
      status = append (parse (Entry.output before)) (parse (Entry.output after)) := by
  have read := Entry.parse_output wellFormed
  have lists := ofEntries_of_wellFormed wellFormed
  dsimp only
  rw [read]
  refine ⟨congrArg created lists, congrArg modified lists, congrArg untracked lists, ?_, ?_⟩
  · intro path listed
    exact mem_names_of_mem_paths wellFormed listed
  · rintro before after rfl
    rcases List.forall_mem_append.mp wellFormed with ⟨beforeFormed, afterFormed⟩
    rw [ofEntries_append, Entry.parse_output beforeFormed, Entry.parse_output afterFormed]

/-- The former path of the first entry looks like an entry, and that of the
second is too short for one. -/
theorem parse_output_lossless_sample :
    let entries : List Entry :=
      [.move ⟨'R', 'M'⟩ "new.ts".toList "?? x.ts".toList, .move ⟨' ', 'C'⟩ "copy.ts".toList ['a'],
        .plain ⟨'A', 'M'⟩ "fresh.ts".toList, .plain ⟨'?', '?'⟩ "my file.ts".toList]
    (∀ entry ∈ entries, entry.WellFormed) ∧
      parse "RM new.ts\x00?? x.ts\x00 C copy.ts\x00a\x00AM fresh.ts\x00?? my file.ts\x00" =
        parse (Entry.output entries) ∧
      (parse (Entry.output entries)).created = ["new.ts", "copy.ts", "fresh.ts"] ∧
      (parse (Entry.output entries)).modified = ["new.ts", "fresh.ts"] ∧
      (parse (Entry.output entries)).untracked = ["my file.ts"] := by
  intro entries
  have wellFormed : ∀ entry ∈ entries, entry.WellFormed := by decide
  rcases parse_output_lossless entries wellFormed with ⟨created, modified, untracked, _⟩
  exact ⟨wellFormed, rfl, created, modified, untracked⟩

/-! ## Files that are gone -/

namespace Code

/-- Of a file that is gone, what the index says is all that counts. -/
theorem modifies_of_isGone {code : Code} (gone : code.isGone = true) :
    code.modifies = (!code.isMove && code.index == 'M') := by
  have known := isUntracked_eq_false_of gone rfl
  rw [isGone, Bool.or_eq_true, beq_iff_eq, beq_iff_eq] at gone
  rcases gone with removed | same
  · cases moved : code.isMove <;> simp [modifies, moved, known, has, removed]
  · subst same
    rfl

end Code

namespace Entry

/-- An entry that says that its file is gone contributes the file if the index
holds it as added or moved, or as changed. -/
theorem status_of_isGone {entry : Entry} (wellFormed : entry.WellFormed)
    (gone : entry.code.isGone = true) :
    entry.status =
      ⟨if entry.code.isMove || entry.code.index == 'A' then [entry.name] else [],
        if !entry.code.isMove && entry.code.index == 'M' then [entry.name] else [], []⟩ := by
  have known := Code.isUntracked_eq_false_of gone rfl
  rw [status_of_wellFormed wellFormed, Code.modifies_of_isGone gone, known]
  rfl

theorem status_of_isGone_eq_clean_iff {entry : Entry} (wellFormed : entry.WellFormed)
    (gone : entry.code.isGone = true) :
    entry.status = clean ↔
      entry.code.isMove = false ∧ entry.code.index ≠ 'A' ∧ entry.code.index ≠ 'M' := by
  rw [status_of_isGone wellFormed gone, clean]
  cases moved : entry.code.isMove <;> simp

end Entry

/-- What an entry contributes that says that its file is gone from the working
tree.  The result is the same as without the entry exactly if the index holds
the file neither as moved nor as added nor as changed. -/
theorem parse_output_of_isGone (before after : List Entry) (entry : Entry)
    (wellFormed : ∀ other ∈ before ++ entry :: after, other.WellFormed)
    (gone : entry.code.isGone = true) :
    parse (Entry.output (before ++ entry :: after)) =
      append (parse (Entry.output before)) (append
        ⟨if entry.code.isMove || entry.code.index == 'A' then [entry.name] else [],
          if !entry.code.isMove && entry.code.index == 'M' then [entry.name] else [], []⟩
        (parse (Entry.output after))) ∧
    (parse (Entry.output (before ++ entry :: after)) = parse (Entry.output (before ++ after)) ↔
      entry.code.isMove = false ∧ entry.code.index ≠ 'A' ∧ entry.code.index ≠ 'M') := by
  rcases List.forall_mem_append.mp wellFormed with ⟨beforeFormed, restFormed⟩
  rcases List.forall_mem_cons.mp restFormed with ⟨entryFormed, afterFormed⟩
  have othersFormed := List.forall_mem_append.mpr ⟨beforeFormed, afterFormed⟩
  rw [Entry.parse_output wellFormed, Entry.parse_output othersFormed,
    Entry.parse_output beforeFormed, Entry.parse_output afterFormed, ofEntries_append,
    ofEntries_append, ofEntries_cons]
  constructor
  · rw [Entry.status_of_isGone entryFormed gone]
  · rw [append_left_cancel_iff, append_eq_right_iff]
    exact Entry.status_of_isGone_eq_clean_iff entryFormed gone

theorem parse_output_of_isGone_sample :
    let entry : Entry := .plain ⟨'D', ' '⟩ "also.ts".toList
    let others : List Entry := [.plain ⟨' ', 'M'⟩ "kept.ts".toList]
    (∀ other ∈ entry :: others, other.WellFormed) ∧ entry.code.isGone = true ∧
      parse (Entry.output (entry :: others)) = parse (Entry.output others) := by
  intro entry others
  have wellFormed : ∀ other ∈ entry :: others, other.WellFormed := by decide
  have gone : entry.code.isGone = true := rfl
  have contributes := parse_output_of_isGone [] others entry wellFormed gone
  exact ⟨wellFormed, gone, contributes.2.mpr ⟨rfl, by decide, by decide⟩⟩

/-- Three files that are gone from the working tree are listed. -/
theorem gone_listed :
    let entries : List Entry :=
      [.plain ⟨'A', 'D'⟩ "added.ts".toList, .plain ⟨'M', 'D'⟩ "changed.ts".toList,
        .move ⟨'R', 'D'⟩ "moved.ts".toList "former.ts".toList]
    (∀ entry ∈ entries, entry.WellFormed ∧ entry.code.isGone = true) ∧
      Entry.output entries =
        "AD added.ts\x00MD changed.ts\x00RD moved.ts\x00former.ts\x00" ∧
      parse (Entry.output entries) = ⟨["added.ts", "moved.ts"], ["changed.ts"], []⟩ := by
  intro entries
  have wellFormed : ∀ entry ∈ entries, entry.WellFormed := by decide
  refine ⟨by decide, rfl, ?_⟩
  rw [Entry.parse_output wellFormed]
  rfl

end Status

end Ratchet
