import Ratchet.Compiler.Invocation
import Ratchet.Proofs.Change.Commands
import Ratchet.Proofs.Shell.Reading
import Ratchet.Shell.Word

namespace Ratchet

/-!
# Quoted words

A quoted text is one word, and that word is the text: the shell finds no end of
the word in it, no operator and nothing to expand.  So the arguments of a command
are the words that follow those of the command itself, whatever they are.
-/

namespace Shell

namespace Rules

variable (rules : Rules)

theorem kind_of_isSafe {c : Char} (safe : Word.isSafe c = true) : rules.kind c = .letter := by
  by_cases letter : rules.kind c = .letter
  · exact letter
  have unsafeMarks : ∀ mark ∈ rules.marks, Word.isSafe mark.1 = false := by
    cases rules <;> decide +kernel
  have contrary := unsafeMarks _ (rules.mem_marks letter)
  rw [safe] at contrary
  cases contrary

theorem eq_of_kind_single {c : Char} (quotes : rules.kind c = .quote .single) : c = '\'' := by
  have only : ∀ mark ∈ rules.marks, mark.2 = .quote .single → mark.1 = '\'' := by
    cases rules <;> decide +kernel
  exact of_kind (P := (· = '\'')) (by decide) only quotes

/-! ## Reading a quoted text -/

/-- Safe characters go on with a word. -/
theorem read_safe {cs : List Char} (safe : ∀ c ∈ cs, Word.isSafe c = true) (glyphs : List Glyph) :
    rules.read ⟨.word glyphs, {}⟩ cs = ([], ⟨.word (glyphs ++ plainly cs), {}⟩) := by
  induction cs generalizing glyphs with
  | nil => rw [plainly_nil, List.append_nil, read_nil]
  | cons c rest ih =>
    have letter := rules.kind_of_isSafe (safe c List.mem_cons_self)
    rw [read_cons, rules.step_letter (.word glyphs) letter nofun]
    simp only [Pending.before, Pending.glyphs]
    rw [ih (fun other listed => safe other (List.mem_cons_of_mem c listed))]
    rw [plainly_cons, List.append_assoc, List.singleton_append, List.nil_append]

/-- Inside single quotes a character other than a single quote stands for
itself. -/
theorem step_inside {c : Char} (other : c ≠ '\'') (glyphs : List Glyph) :
    rules.step ⟨.word glyphs, { quote := some .single }⟩ c =
      ([], ⟨.word (glyphs ++ [.plain c]), { quote := some .single }⟩) := by
  have stays : rules.kind c ≠ .quote .single := fun quotes => other (rules.eq_of_kind_single quotes)
  have acts : rules.act ⟨.word glyphs, { quote := some .single }⟩ c =
      (.put [.plain c], { quote := some .single }) := by
    change rules.quoted .single c = _
    unfold quoted
    split
    · next quotes => exact absurd quotes stays
    all_goals first | contradiction | rfl
  rw [step, acts]
  rfl

/-- A single quote written inside single quotes stands for itself. -/
theorem read_innerQuote (glyphs : List Glyph) :
    rules.read ⟨.word glyphs, { quote := some .single }⟩ Word.innerQuote =
      ([], ⟨.word (glyphs ++ [.plain '\'']), { quote := some .single }⟩) := by
  have reads : rules.read ⟨.word glyphs, { quote := some .single }⟩ Word.innerQuote =
      ([], ⟨.word (glyphs ++ [] ++ [.plain '\''] ++ []), { quote := some .single }⟩) := by
    cases rules <;> rfl
  rw [reads, List.append_nil, List.append_nil]

/-- Between single quotes, with single quotes inside written out, a text stands
for itself. -/
theorem read_inside (cs : List Char) (glyphs : List Glyph) :
    rules.read ⟨.word glyphs, { quote := some .single }⟩
        (cs.flatMap fun c => if c = '\'' then Word.innerQuote else [c]) =
      ([], ⟨.word (glyphs ++ plainly cs), { quote := some .single }⟩) := by
  induction cs generalizing glyphs with
  | nil => rw [plainly_nil, List.append_nil, List.flatMap_nil, read_nil]
  | cons c rest ih =>
    have first : rules.read ⟨.word glyphs, { quote := some .single }⟩
        (if c = '\'' then Word.innerQuote else [c]) =
          ([], ⟨.word (glyphs ++ [.plain c]), { quote := some .single }⟩) := by
      by_cases quotes : c = '\''
      · rw [if_pos quotes, quotes, read_innerQuote]
      · rw [if_neg quotes, read_cons, rules.step_inside quotes, read_nil]
        rfl
    rw [List.flatMap_cons, read_append_of_read first (ih _), plainly_cons, List.append_assoc]
    rfl

/-- A quoted text is read as the word that it is. -/
theorem read_quote (cs : List Char) :
    rules.read {} (Word.quote cs) = ([], ⟨.word (plainly cs), {}⟩) := by
  unfold Word.quote
  split
  · next empty =>
    rw [List.isEmpty_iff.mp empty]
    cases rules <;> rfl
  split
  · next safe =>
    have each := List.all_eq_true.mp safe
    cases cs with
    | nil => contradiction
    | cons c rest =>
      have letter := rules.kind_of_isSafe (each c List.mem_cons_self)
      rw [read_cons, rules.step_letter .nothing letter nofun]
      have others : ∀ other ∈ rest, Word.isSafe other = true :=
        fun other listed => each other (List.mem_cons_of_mem c listed)
      exact rules.read_safe others [.plain c]
  · have opens : rules.step {} '\'' = ([], ⟨.word [], { quote := some .single }⟩) := by
      cases rules <;> rfl
    have closes : rules.read ⟨.word (plainly cs), { quote := some .single }⟩ ['\''] =
        ([], ⟨.word (plainly cs), {}⟩) := by
      cases rules <;> rfl
    have inside := read_append_of_read (rules.read_inside cs []) closes
    rw [List.cons_append, read_cons, opens, inside]
    rfl

end Rules

variable {rules : Rules}

/-! ## Words and what follows them -/

theorem words_eq_some_iff {text : String} {all : List (List Glyph)} :
    words rules text = some all ↔ tokens rules text = some (all.map .word) := by
  have each : ∀ found : List Token, found.mapM Token.word? = some all ↔ found = all.map .word := by
    intro found
    induction found generalizing all with
    | nil => cases all <;> simp
    | cons token rest ih =>
      cases token with
      | operator _ | comment _ => cases all <;> simp [List.mapM_cons, Token.word?]
      | word glyphs =>
        cases all with
        | nil => simp [List.mapM_cons, Token.word?, Option.bind_eq_some_iff]
        | cons _ _ =>
          simp only [List.mapM_cons, Token.word?, Option.bind_eq_bind, Option.bind_some,
            Option.bind_eq_some_iff, ih, Option.pure_def, Option.some.injEq, List.cons.injEq,
            List.map_cons, Token.word.injEq]
          exact ⟨fun ⟨_, same, first, others⟩ => ⟨first, others ▸ same⟩,
            fun ⟨first, same⟩ => ⟨_, same, first, rfl⟩⟩
  rw [words, Option.bind_eq_some_iff]
  constructor
  · rintro ⟨found, read, same⟩
    rw [read, (each found).mp same]
  · intro read
    exact ⟨_, read, (each _).mpr rfl⟩

/-- After a text of words and a blank, a shell is where it began. -/
theorem read_separated {text : String} {all : List (List Glyph)}
    (whole : words rules text = some all) :
    rules.read {} (text ++ " ").toList = (all.map .word, {}) := by
  have found := words_eq_some_iff.mp whole
  rw [tokens, finish] at found
  generalize reads : rules.read {} text.toList = result at found
  obtain ⟨ended, pending, quote, expansion, last⟩ := result
  split at found
  · next complete =>
    obtain ⟨rfl, rfl, unescaped⟩ := complete
    have ends := Option.some.inj found
    have acts : rules.act ⟨pending, none, [], last⟩ ' ' = (.stop, {}) := by
      rw [rules.act_of_closed pending unescaped (by decide)]
      cases pending with
      | comment text =>
        have listed : Token.comment text ∈ all.map Token.word := by
          rw [← ends]
          exact List.mem_append_right ended List.mem_cons_self
        obtain ⟨glyphs, -, other⟩ := List.mem_map.mp listed
        cases other
      | nothing | word | operator => cases rules <;> rfl
    have separates : rules.read ⟨pending, none, [], last⟩ [' '] = (pending.tokens, {}) := by
      rw [Rules.read_cons, Rules.step, acts, Rules.read_nil]
      simp only [Pending.perform, List.append_nil]
    rw [String.toList_append, ← ends]
    exact Rules.read_append_of_read reads separates
  · cases found

/-- A quoted text after words and a blank is one more word. -/
theorem words_append_asWord {text : String} {all : List (List Glyph)}
    (whole : words rules text = some all) (argument : String) :
    words rules (text ++ " " ++ Text.asWord argument) = some (all ++ [wordOf argument]) := by
  have alone : tokens rules (Text.asWord argument) = some [.word (wordOf argument)] := by
    rw [tokens, Text.asWord, String.toList_ofList, Rules.read_quote]
    rfl
  rw [words_eq_some_iff, tokens_append_of_read (read_separated whole), alone, List.map_append]
  rfl

theorem join_cons_cons (separator first second : String) (others : List String) :
    Text.join separator (first :: second :: others) =
      Text.join separator ((first ++ separator ++ second) :: others) := by
  cases others with
  | nil => rfl
  | cons third rest => simp only [Text.join, String.append_assoc]

/-- The words of a command with arguments are its own and then the arguments. -/
theorem words_commandLine {command : String} {all : List (List Glyph)}
    (whole : words rules command = some all) (arguments : List String) :
    words rules (Compiler.commandLine command arguments) =
      some (all ++ arguments.map wordOf) := by
  unfold Compiler.commandLine
  induction arguments generalizing command all with
  | nil =>
    rw [List.map_nil, List.map_nil, List.append_nil]
    exact whole
  | cons argument rest ih =>
    rw [List.map_cons, join_cons_cons, ih (words_append_asWord whole argument), List.map_cons,
      List.append_assoc]
    rfl

/-- The usual questions to version control and the compiler's command are read as
the words that they are made of, whatever the names, revisions and arguments
are. -/
theorem words_asGiven (rules : Rules) :
    (∀ setup : Git.Setup,
      setup.template? "fork_point" = Git.defaults.lookup "fork_point" → ∀ ref target : String,
      ∃ command, setup.command "fork_point" [("ref", ref), ("target", target)] = .ok command ∧
        words rules command =
          some (["git", "merge-base", "--fork-point", target, ref].map wordOf)) ∧
    (∀ setup : Git.Setup,
      setup.template? "diff_names" = Git.defaults.lookup "diff_names" → ∀ sha head : String,
      ∃ command, setup.command "diff_names" [("base", sha), ("head", head)] = .ok command ∧
        words rules command =
          some (["git", "diff", "--name-only", "-z", "--diff-filter=d", sha, head].map wordOf)) ∧
    ∀ (setup : Compiler.Setup) (own : List (List Glyph)) (arguments : List String),
      words rules setup.command = some own →
      words rules (setup.call arguments).command = some (own ++ arguments.map wordOf) := by
  refine ⟨?_, ?_, ?_⟩
  · intro setup usual ref target
    refine ⟨_, setup.command_forkPoint usual ref target, ?_⟩
    have own : words rules "git merge-base --fork-point" =
        some (["git", "merge-base", "--fork-point"].map wordOf) := by
      cases rules <;> decide +kernel
    exact words_append_asWord (words_append_asWord own target) ref
  · intro setup usual sha head
    refine ⟨_, setup.command_diffNames usual sha head, ?_⟩
    have own : words rules "git diff --name-only -z --diff-filter=d" =
        some (["git", "diff", "--name-only", "-z", "--diff-filter=d"].map wordOf) := by
      cases rules <;> decide +kernel
    exact words_append_asWord (words_append_asWord own sha) head
  · intro setup own arguments whole
    exact words_commandLine whole arguments

theorem words_asGiven_hostile :
    let place : Path := ⟨.single, ["work"]⟩
    let branch := "it's; $(rm -rf ~) \x7bhead\x7d\n"
    let compiler : Compiler.Setup := { directory := place, command := "npx 'my tsc'" }
    (∃ command, (Git.Setup.mk place [] none).command "fork_point"
        [("ref", branch), ("target", "")] = .ok command ∧
      words .commands command =
        some (["git", "merge-base", "--fork-point", "", branch].map wordOf)) ∧
    (∃ command, (Git.Setup.mk place [] none).command "diff_names"
        [("base", "\"`"), ("head", "a b")] = .ok command ∧
      words .commands command =
        some (["git", "diff", "--name-only", "-z", "--diff-filter=d", "\"`", "a b"].map wordOf)) ∧
    words .commands (compiler.call ["--noEmit", branch]).command =
      some (["npx", "my tsc"].map wordOf ++ ["--noEmit", branch].map wordOf) := by
  intro place branch compiler
  obtain ⟨forkPoint, diffNames, command⟩ := words_asGiven .commands
  exact ⟨forkPoint _ rfl branch "", diffNames _ rfl "\"`" "a b",
    command compiler _ _ (by decide +kernel)⟩

end Shell

end Ratchet
