import Ratchet.Proofs.Shell.Weight

namespace Ratchet

namespace Shell

/-!
# Commands in a directory

A command that is run in a directory gets a change of directory in front of it, in
which only the blanks of the directory are protected.  The shell reads this as it
is meant if the directory has nothing else in it that means something to a shell.
Otherwise something of the directory is lost in reading, and what is read is
something else, whatever the command.
-/

open Call (protectBlank)

/-- What means something to a shell wherever it stands, a blank apart. -/
def meaningful : List Char :=
  ['\t', '\n', '\\', '\'', '"', '&', '|', ';', '<', '>', '(', ')', '$', '`', '*', '?', '[']

/-- Nothing of a directory but its blanks means anything to a shell. -/
def Harmless (cs : List Char) : Prop :=
  cs ≠ [] ∧ cs.head? ∉ [some '#', some '~'] ∧ ∀ c ∈ cs, c ∉ meaningful

instance (cs : List Char) : Decidable (Harmless cs) :=
  inferInstanceAs (Decidable (_ ∧ _ ∧ _))

/-- A directory's text as it stands in front of a command. -/
def protect (cs : List Char) : List Char :=
  cs.flatMap protectBlank

theorem protect_cons (c : Char) (cs : List Char) :
    protect (c :: cs) = protectBlank c ++ protect cs :=
  List.flatMap_cons

theorem toList_changeTo (directory : Path) :
    (Call.changeTo directory).toList =
      "cd ".toList ++ (protect directory.text.toList ++ " && ".toList) := by
  simp only [Call.changeTo, protect, String.toList_append, String.toList_ofList,
    List.append_assoc]

/-! ## Directories that are read as meant -/

theorem kind_of_not_meaningful {c : Char} (means : c ∉ meaningful) (visible : c ≠ ' ') :
    Rules.kind .commands c = .letter ∨ c = '#' ∨ c = '~' := by
  by_cases letter : Rules.kind .commands c = .letter
  · exact .inl letter
  have marks : ∀ mark ∈ Rules.marks .commands,
      mark.1 ∈ meaningful ∨ mark.1 = ' ' ∨ mark.1 = '#' ∨ mark.1 = '~' := by decide +kernel
  rcases marks _ (Rules.mem_marks .commands letter) with listed | blank | mark
  · exact absurd listed means
  · exact absurd blank visible
  · exact .inr mark

/-- Within a word, and at its beginning if it is no mark there, a character stands
for itself. -/
theorem read_protectBlank (pending : Pending) (free : pending.before = []) {c : Char}
    (means : c ∉ meaningful) (within : pending.isWord ∨ c ∉ ['#', '~']) :
    Rules.read .commands ⟨pending, {}⟩ (protectBlank c) =
      ([], ⟨.word (pending.glyphs ++ [.plain c]), {}⟩) := by
  by_cases blank : c = ' '
  · subst blank
    cases pending with
    | nothing | word => rfl
    | operator | comment => cases free
  rw [protectBlank, if_neg blank]
  have step : Rules.step .commands ⟨pending, {}⟩ c =
      ([], ⟨.word (pending.glyphs ++ [.plain c]), {}⟩) := by
    rcases kind_of_not_meaningful means blank with letter | rfl | rfl
    · rw [Rules.step_letter .commands pending letter, free]
      rintro text rfl
      cases free
    all_goals
      cases pending with
      | word => rfl
      | nothing => exact absurd within (by decide)
      | operator | comment => cases free
  rw [Rules.read_cons, step, Rules.read_nil]
  rfl

theorem read_protect_word {cs : List Char} (means : ∀ c ∈ cs, c ∉ meaningful)
    (glyphs : List Glyph) :
    Rules.read .commands ⟨.word glyphs, {}⟩ (protect cs) =
      ([], ⟨.word (glyphs ++ plainly cs), {}⟩) := by
  induction cs generalizing glyphs with
  | nil => rw [plainly_nil, List.append_nil, protect, List.flatMap_nil, Rules.read_nil]
  | cons c rest ih =>
    have first := read_protectBlank (.word glyphs) rfl (means c List.mem_cons_self)
      (.inl rfl)
    have others := ih (fun other listed => means other (List.mem_cons_of_mem c listed))
      (glyphs ++ [.plain c])
    rw [protect_cons, Rules.read_append_of_read first others, plainly_cons, List.append_assoc]
    rfl

theorem read_protect {cs : List Char} (harmless : Harmless cs) :
    Rules.read .commands {} (protect cs) = ([], ⟨.word (plainly cs), {}⟩) := by
  obtain ⟨nonempty, start, means⟩ := harmless
  cases cs with
  | nil => exact absurd rfl nonempty
  | cons c rest =>
    have begins : c ∉ ['#', '~'] := by
      simpa using start
    have first := read_protectBlank .nothing rfl (means c List.mem_cons_self)
      (.inr begins)
    have others := read_protect_word
      (fun other listed => means other (List.mem_cons_of_mem c listed)) [.plain c]
    rw [protect_cons]
    exact Rules.read_append_of_read first others

/-- The change to a harmless directory is read as it is meant. -/
theorem read_changeTo {directory : Path} (harmless : Harmless directory.text.toList) :
    Rules.read .commands {} (Call.changeTo directory).toList =
      ([.word (wordOf "cd"), .word (wordOf directory.text), .operator "&&"], {}) := by
  have change : Rules.read .commands {} "cd ".toList = ([.word (wordOf "cd")], {}) := rfl
  have ends : Rules.read .commands ⟨.word (plainly directory.text.toList), {}⟩ " && ".toList =
      ([.word (wordOf directory.text), .operator "&&"], {}) := rfl
  rw [toList_changeTo]
  exact Rules.read_append_of_read change (Rules.read_append_of_read (read_protect harmless) ends)

/-! ## Directories that are not -/

section Loss

variable (weight : Glyph → Nat)

/-- A blank or an ampersand leaves open what is open. -/
theorem open_of_act {reader : Reader} {c : Char} (plain : c ∈ [' ', '&'])
    (isOpen : reader.mode.quote ≠ none ∨ reader.mode.expansion ≠ []) :
    (Rules.act .commands reader c).2.quote ≠ none ∨
      (Rules.act .commands reader c).2.expansion ≠ [] := by
  obtain ⟨pending, quote, expansion, last⟩ := reader
  cases expansion with
  | cons top outer =>
    right
    have inside : c ≠ top.closing := by
      rintro rfl
      rcases top with (_ | _) | _ | _ | _ <;> exact absurd plain (by decide)
    change (top.advance outer last c).1 ≠ []
    unfold Enclosure.advance
    rw [if_neg inside]
    split
    · exact List.cons_ne_nil _ _
    split
    · exact List.cons_ne_nil _ _
    split <;> exact List.cons_ne_nil _ _
  | nil =>
    left
    cases quote with
    | none => exact absurd isOpen (by simp)
    | some q =>
      simp only [List.mem_cons, List.not_mem_nil, or_false] at plain
      rcases plain with rfl | rfl <;> cases last <;> cases q <;> exact Option.some_ne_none _

/-- Where nothing is open, a blank or an ampersand is no part of a word. -/
theorem act_of_plain {c : Char} (plain : c ∈ [' ', '&']) (pending : Pending) {last : Last}
    (unescaped : last ≠ .backslash) :
    ∃ act : Act, Rules.act .commands ⟨pending, none, [], last⟩ c = (act, {}) ∧
      act.glyphs = [] := by
  simp only [List.mem_cons, List.not_mem_nil, or_false] at plain
  rcases plain with rfl | rfl <;> rw [Rules.act_of_closed _ _ unescaped (by decide)] <;>
    cases pending <;> exact ⟨_, rfl, rfl⟩

theorem open_of_read {reader : Reader} {cs : List Char} (plain : ∀ c ∈ cs, c ∈ [' ', '&'])
    (isOpen : reader.mode.quote ≠ none ∨ reader.mode.expansion ≠ []) :
    (Rules.read .commands reader cs).2.mode.quote ≠ none ∨
      (Rules.read .commands reader cs).2.mode.expansion ≠ [] := by
  induction cs generalizing reader with
  | nil => exact isOpen
  | cons c rest ih =>
    have next := open_of_act (plain c List.mem_cons_self) isOpen
    rw [Rules.read_cons]
    exact ih (fun other listed => plain other (List.mem_cons_of_mem c listed)) next

theorem weighRead_of_plain {cs : List Char} (plain : ∀ c ∈ cs, c ∈ [' ', '&']) (pending : Pending)
    (last : Last) (unescaped : last ≠ .backslash) :
    weighRead weight (Rules.read .commands ⟨pending, none, [], last⟩ cs) =
      weigh weight pending.tokens := by
  induction cs generalizing pending last with
  | nil => simp [weighRead]
  | cons c rest ih =>
    obtain ⟨act, acts, adds⟩ := act_of_plain (plain c List.mem_cons_self) pending unescaped
    have here := weigh_perform weight pending act
    have later := ih (fun other listed => plain other (List.mem_cons_of_mem c listed))
      (pending.perform act).2 .ordinary (by decide)
    rw [adds] at here
    rw [weighRead_cons, Rules.step_of_act acts]
    simp only [later]
    exact here

/-- The end of the change of directory adds nothing to the last word but the blank
that a backslash at the end of the directory protects. -/
theorem weigh_le_of_ending {reader : Reader} {later : List Token}
    (ends : finish (Rules.read .commands reader " && ".toList) = some later) :
    weigh weight later ≤
      weigh weight reader.pending.tokens + reader.mode.owed * weight (.plain ' ') := by
  have plain : ∀ c ∈ " && ".toList, c ∈ [' ', '&'] := by simp
  have whole : weigh weight later =
      weighRead weight (Rules.read .commands reader " && ".toList) := by
    unfold finish at ends
    split at ends
    · rw [← Option.some.inj ends, weigh_append, weighRead]
    · cases ends
  rw [whole]
  by_cases isOpen : reader.mode.quote ≠ none ∨ reader.mode.expansion ≠ []
  · -- what is open stays open, and the text is incomplete
    have stays := open_of_read plain isOpen
    unfold finish at ends
    split at ends
    · next complete => exact (stays.elim (· complete.1) (· complete.2.1)).elim
    · cases ends
  obtain ⟨pending, quote, expansion, last⟩ := reader
  simp only [ne_eq, not_or, Decidable.not_not] at isOpen
  obtain ⟨rfl, rfl⟩ := isOpen
  by_cases escaped : last = .backslash
  · subst escaped
    have protects : Rules.step .commands ⟨pending, none, [], .backslash⟩ ' ' =
        (pending.before, ⟨.word (pending.glyphs ++ [.plain ' ']), {}⟩) := rfl
    have here := weigh_perform weight pending (.put [.plain ' '])
    have ampersands : ∀ c ∈ ['&', '&', ' '], c ∈ [' ', '&'] := by simp
    have later := weighRead_of_plain weight ampersands (.word (pending.glyphs ++ [.plain ' ']))
      .ordinary (by decide)
    change weighRead weight (Rules.read .commands _ [' ', '&', '&', ' ']) ≤ _
    rw [weighRead_cons, protects]
    simp only [later]
    simp only [Mode.owed, if_true, Nat.one_mul]
    exact Nat.le_of_eq (by simpa [Pending.perform, Act.glyphs, Pending.tokens] using here)
  · rw [weighRead_of_plain weight plain pending last escaped]
    exact Nat.le_add_right _ _

end Loss

/-- Something of a text is missing when it has been read in front of a blank. -/
def Loses (reader : Reader) (cs : List Char) : Prop :=
  ∃ weight : Glyph → Nat,
    weighRead weight (Rules.read .commands reader (protect cs)) +
        (Rules.read .commands reader (protect cs)).2.mode.owed * weight (.plain ' ') <
      weigh weight reader.pending.tokens + ((plainly cs).map weight).sum

theorem count_protect {q : Char} (noBackslash : q ≠ '\\') (cs : List Char) :
    (protect cs).count q = cs.count q := by
  induction cs with
  | nil => rfl
  | cons c rest ih =>
    rw [protect_cons, List.count_append, ih, List.count_cons, Nat.add_comm, protectBlank]
    by_cases blank : c = ' '
    · simp [blank, List.count_cons, noBackslash.symm]
    · simp [blank, List.count_cons]

theorem count_backslash_protect (cs : List Char) :
    (protect cs).count '\\' = cs.count '\\' + cs.count ' ' := by
  induction cs with
  | nil => rfl
  | cons c rest ih =>
    rw [protect_cons, List.count_append, ih, List.count_cons, List.count_cons, protectBlank]
    by_cases blank : c = ' '
    · simp [blank]
      omega
    · simp [blank, List.count_cons]
      omega

/-- Missing characters of one kind are missing. -/
theorem loses_of_count {reader : Reader} {cs : List Char} {q : Char} (noBackslash : q ≠ '\\')
    (visible : q ≠ ' ')
    (missing : weighRead (countOf q) (Rules.read .commands reader (protect cs)) <
      weigh (countOf q) reader.pending.tokens + (protect cs).count q) :
    Loses reader cs := by
  refine ⟨countOf q, ?_⟩
  have nothing : countOf q (.plain ' ') = 0 := by
    simp [countOf, visible.symm]
  rw [count_protect noBackslash] at missing
  rw [nothing, Nat.mul_zero, Nat.add_zero, sum_countOf]
  exact missing

theorem not_blank_of_meaningful {c : Char} (means : c ∈ meaningful) : c ≠ ' ' := by
  rintro rfl
  exact absurd means (by decide)

theorem protect_cons_of_meaningful {c : Char} (visible : c ≠ ' ') (cs : List Char) :
    protect (c :: cs) = c :: protect cs := by
  rw [protect_cons, protectBlank, if_neg visible, List.singleton_append]

/-- A character that means something but is no backslash is lost. -/
theorem loses_of_lost {pending : Pending} {c : Char} (noBackslash : c ≠ '\\') (visible : c ≠ ' ')
    (lost : ((Rules.bare .commands pending c).1.glyphs.map (countOf c)).sum = 0)
    (cs : List Char) : Loses ⟨pending, {}⟩ (c :: cs) := by
  apply loses_of_count noBackslash visible
  rw [protect_cons_of_meaningful visible]
  exact weighRead_countOf_lt .commands ⟨pending, {}⟩ noBackslash lost (protect cs)

/-- A backslash is lost, or later quotes are. -/
theorem loses_of_backslash {pending : Pending} (free : pending.before = []) (cs : List Char) :
    Loses ⟨pending, {}⟩ ('\\' :: cs) := by
  have escapes : Rules.step .commands ⟨pending, {}⟩ '\\' =
      ([], ⟨pending, { last := .backslash }⟩) := by
    cases pending with
    | nothing | word => rfl
    | operator | comment => cases free
  have visible : '\\' ≠ ' ' := by decide
  rcases weighRead_backslashes_le .commands ⟨pending, { last := .backslash }⟩ rfl (protect cs)
    with few | ⟨q, quotes, missing⟩
  · refine ⟨backslashes, ?_⟩
    have one : backslashes (.plain ' ') = 1 := rfl
    rw [one, Nat.mul_one, sum_backslashes, protect_cons_of_meaningful visible, weighRead_cons,
      Rules.read_cons, escapes, List.count_cons_self, List.count_cons_of_ne visible]
    rw [count_backslash_protect] at few
    simp only [Mode.owed, if_true] at few ⊢
    rw [weigh_nil]
    omega
  · obtain ⟨noBackslash, apart⟩ := ne_of_mem_quotes quotes
    apply loses_of_count noBackslash apart
    rw [protect_cons_of_meaningful visible, weighRead_cons, escapes, weigh_nil, Nat.zero_add,
      List.count_cons_of_ne noBackslash.symm]
    exact missing

/-- What is missing of the rest is missing of the whole. -/
theorem loses_cons {pending : Pending} {c : Char} {cs : List Char} (free : pending.before = [])
    (reads : Rules.read .commands ⟨pending, {}⟩ (protectBlank c) =
      ([], ⟨.word (pending.glyphs ++ [.plain c]), {}⟩))
    (rest : Loses ⟨.word (pending.glyphs ++ [.plain c]), {}⟩ cs) :
    Loses ⟨pending, {}⟩ (c :: cs) := by
  obtain ⟨weight, missing⟩ := rest
  refine ⟨weight, ?_⟩
  have goesOn : Rules.read .commands ⟨pending, {}⟩ (protect (c :: cs)) =
      Rules.read .commands ⟨.word (pending.glyphs ++ [.plain c]), {}⟩ (protect cs) := by
    rw [protect_cons]
    exact Rules.read_append_of_read reads rfl
  have before : weigh weight pending.tokens = (pending.glyphs.map weight).sum := by
    cases pending with
    | nothing => rfl
    | word => exact weigh_word weight _
    | operator | comment => cases free
  rw [goesOn, before, plainly_cons]
  simpa [Pending.tokens, Nat.add_assoc] using missing

theorem lost_of_meaningful {pending : Pending} (free : pending.before = []) {c : Char}
    (means : c ∈ meaningful) (noBackslash : c ≠ '\\') :
    ((Rules.bare .commands pending c).1.glyphs.map (countOf c)).sum = 0 := by
  -- what has been read of a word does not matter, only whether there is one
  have each (pending : Pending) (known : pending = .nothing ∨ pending = .word []) :
      meaningful.all (fun c => c = '\\' ∨
        ((Rules.bare .commands pending c).1.glyphs.map (countOf c)).sum = 0) = true := by
    rcases known with rfl | rfl <;> decide +kernel
  have lost (pending : Pending) (known : pending = .nothing ∨ pending = .word []) :
      ((Rules.bare .commands pending c).1.glyphs.map (countOf c)).sum = 0 := by
    have here := List.all_eq_true.mp (each pending known) c means
    simpa [noBackslash] using here
  cases pending with
  | operator | comment => cases free
  | nothing => exact lost .nothing (.inl rfl)
  | word glyphs => exact lost (.word []) (.inr rfl)

/-- A text in which something means something to a shell loses something. -/
theorem loses_of_meaningful {pending : Pending} (free : pending.before = []) {cs : List Char}
    (start : pending.isWord ∨ cs.head? ∉ [some '#', some '~']) (means : ∃ c ∈ cs, c ∈ meaningful) :
    Loses ⟨pending, {}⟩ cs := by
  induction cs generalizing pending with
  | nil =>
    obtain ⟨c, listed, -⟩ := means
    cases listed
  | cons c rest ih =>
    by_cases here : c ∈ meaningful
    · by_cases backslash : c = '\\'
      · rw [backslash]
        exact loses_of_backslash free rest
      · exact loses_of_lost backslash (not_blank_of_meaningful here)
          (lost_of_meaningful free here backslash) rest
    · obtain ⟨d, listed, later⟩ := means
      have within : pending.isWord ∨ c ∉ ['#', '~'] := by
        simpa using start
      have found : d ∈ rest := by
        rcases List.mem_cons.mp listed with rfl | found
        · exact absurd later here
        · exact found
      exact loses_cons free (read_protectBlank pending free here within)
        (ih rfl (.inl rfl) ⟨d, found, later⟩)

theorem loses_of_not_harmless {cs : List Char} (nonempty : cs ≠ []) (harmful : ¬ Harmless cs) :
    Loses {} cs := by
  by_cases start : cs.head? ∉ [some '#', some '~']
  · have missed : ¬ ∀ c ∈ cs, c ∉ meaningful := fun all => harmful ⟨nonempty, start, all⟩
    obtain ⟨c, listed⟩ := Classical.not_forall.mp missed
    obtain ⟨member, means⟩ := Classical.not_imp.mp listed
    exact loses_of_meaningful rfl (.inr start) ⟨c, member, Decidable.not_not.mp means⟩
  · cases cs with
    | nil => exact absurd rfl nonempty
    | cons c rest =>
      have mark : c = '#' ∨ c = '~' := by
        simpa using Decidable.not_not.mp start
      rcases mark with rfl | rfl
      · exact loses_of_lost (by decide) (by decide) rfl rest
      · exact loses_of_lost (by decide) (by decide) rfl rest

/-! ## The change of directory and the command -/

/-- If the change of directory is read as it is meant, nothing of the directory is
lost. -/
theorem not_loses_of_tokens {directory : Path}
    (meant : tokens .commands (Call.changeTo directory) =
      some [.word (wordOf "cd"), .word (wordOf directory.text), .operator "&&"]) :
    ¬ Loses {} directory.text.toList := by
  rintro ⟨weight, missing⟩
  have change : Rules.read .commands {} "cd ".toList = ([.word (wordOf "cd")], {}) := rfl
  -- what is read up to the end of the directory, whatever that is
  generalize reads : Rules.read .commands {} (protect directory.text.toList) = result at missing
  obtain ⟨ended, next⟩ := result
  rw [tokens, toList_changeTo, Rules.read_append_of_read change
    (Rules.read_append_of_read reads rfl), finish_append, finish_append] at meant
  obtain ⟨all, ends, whole⟩ := Option.map_eq_some_iff.mp meant
  obtain ⟨later, finishes, rfl⟩ := Option.map_eq_some_iff.mp ends
  have least := weigh_le_of_ending weight finishes
  have rest : ended ++ later = [.word (wordOf directory.text), .operator "&&"] :=
    List.append_cancel_left whole
  have same := congrArg (weigh weight) rest
  have meantWeight : weigh weight [.word (wordOf directory.text), .operator "&&"] =
      ((plainly directory.text.toList).map weight).sum := by
    rw [← weigh_word]
    rfl
  rw [weigh_append, meantWeight] at same
  unfold weighRead at missing
  have begins : weigh weight Pending.nothing.tokens = 0 := rfl
  dsimp only at missing
  omega

/-- In front of every command the change of directory is read as it is meant, and
the command as it is alone, exactly if the directory is harmless. -/
theorem inDirectory_iff_harmless (directory : Path) :
    Harmless directory.text.toList ↔
      ∀ (shell : Shell) (call : Call), ∃ text,
        (execute shell { call with directory := some directory }).journal.commands = [text] ∧
        tokens .commands text = (tokens .commands call.command).map
          ([.word (wordOf "cd"), .word (wordOf directory.text), .operator "&&"] ++ ·) := by
  constructor
  · intro harmless shell call
    refine ⟨_, commands_execute shell _, ?_⟩
    exact tokens_append_of_read (read_changeTo harmless)
  · intro meant
    obtain ⟨text, given, reads⟩ := meant (fun _ => ⟨"", "", 0, false⟩) { command := "" }
    rw [commands_execute] at given
    obtain ⟨rfl, -⟩ := List.cons.inj given
    have alone : tokens .commands (Call.changeTo directory) =
        some [.word (wordOf "cd"), .word (wordOf directory.text), .operator "&&"] := by
      have same : Call.changeTo directory ++ "" = Call.changeTo directory := String.append_empty
      rw [← same]
      exact reads
    by_cases harmless : Harmless directory.text.toList
    · exact harmless
    by_cases empty : directory.text.toList = []
    · have nameless : wordOf directory.text = [] := by
        rw [wordOf, empty, plainly_nil]
      rw [tokens, toList_changeTo, empty, nameless] at alone
      exact absurd alone (by decide +kernel)
    · exact absurd (loses_of_not_harmless empty harmless) (not_loses_of_tokens alone)

/-- A semicolon in the directory ends the change of directory, and the rest of the
directory is a command. -/
theorem inDirectory_semicolon :
    let shell : Shell := fun _ => ⟨"", "", 0, false⟩
    let call : Call := { command := "ls", directory := some ⟨.single, ["srv", "a;b"]⟩ }
    ∃ text, (execute shell call).journal.commands = [text] ∧
      tokens .commands text =
        some [.word (wordOf "cd"), .word (wordOf "/srv/a"), .operator ";", .word (wordOf "b"),
          .operator "&&", .word (wordOf "ls")] ∧
      tokens .commands text ≠ (tokens .commands call.command).map
        ([.word (wordOf "cd"), .word (wordOf "/srv/a;b"), .operator "&&"] ++ ·) := by
  intro shell call
  exact ⟨call.fullText, commands_execute shell call, by decide +kernel, by decide +kernel⟩

end Shell

end Ratchet
