import Ratchet.Proofs.Settings.Include
import Ratchet.Proofs.Settings.Shape
import Ratchet.Settings.Load

namespace Ratchet

namespace Tree

/-!
# Settings read back

Any tree that has the shape of some settings is the tree of settings of its
own, and these are what is read from it.  So no part is lost when references
are replaced in the tree: the settings of the new tree are the new settings.
-/

variable {α : Type} {form : α → Tree} {read : Tree → Option α}

/-- Every tree of the shape of a form is itself the form of what is read from it. -/
def Returns (form : α → Tree) (read : Tree → Option α) : Prop :=
  ∀ a t, t.shape = (form a).shape → ∃ b, read t = some b ∧ form b = t

theorem returns_text : Returns Tree.text toText? := by
  intro s t alike
  cases t with
  | text s' => exact ⟨s', rfl, rfl⟩
  | none | flag | number | mode | path | list | table | «section» => cases alike

theorem returns_path : Returns Tree.path toPath? := by
  intro p t alike
  cases t with
  | path p' => exact ⟨p', rfl, rfl⟩
  | none | flag | number | mode | text | list | table | «section» => cases alike

theorem returns_flag : Returns Tree.flag toFlag? := by
  intro b t alike
  cases t with
  | flag b' => exact ⟨b', rfl, rfl⟩
  | none | number | mode | text | path | list | table | «section» => cases alike

theorem returns_number : Returns Tree.number toNumber? := by
  intro n t alike
  cases t with
  | number n' => exact ⟨n', rfl, rfl⟩
  | none | flag | mode | text | path | list | table | «section» => cases alike

theorem returns_mode : Returns Tree.mode toMode? := by
  intro m t alike
  cases t with
  | mode m' => exact ⟨m', rfl, rfl⟩
  | none | flag | number | text | path | list | table | «section» => cases alike

@[simp] theorem toOption?_none (read : Tree → Option α) :
    toOption? read .none = some Option.none := rfl

theorem toOption?_of_ne {t : Tree} (there : t ≠ .none) (read : Tree → Option α) :
    toOption? read t = (read t).map some := by
  cases t with
  | none => exact absurd rfl there
  | flag | number | mode | text | path | list | table | «section» => rfl

theorem returns_ofOption (back : Returns form read) (there : ∀ a, form a ≠ .none) :
    Returns (ofOption form) (toOption? read) := by
  intro a t alike
  cases a with
  | none =>
    cases t with
    | none => exact ⟨.none, rfl, rfl⟩
    | flag | number | mode | text | path | list | table | «section» => cases alike
  | some a =>
    obtain ⟨b, found, rfl⟩ := back a t alike
    exact ⟨some b, by rw [toOption?_of_ne (there b), found, Option.map_some], rfl⟩

theorem mapM_of_shapes (back : Returns form read) {items : List Tree} {as : List α}
    (alike : shapes items = shapes (as.map form)) :
    ∃ bs, items.mapM read = some bs ∧ bs.map form = items := by
  induction items generalizing as with
  | nil => exact ⟨[], rfl, rfl⟩
  | cons item rest ih =>
    cases as with
    | nil => cases alike
    | cons a others =>
      rw [List.map_cons, shapes, shapes, List.cons.injEq] at alike
      obtain ⟨b, found, rfl⟩ := back a item alike.1
      obtain ⟨bs, rest, rfl⟩ := ih alike.2
      exact ⟨b :: bs, by simp [found, rest], rfl⟩

theorem returns_list (back : Returns form read) :
    Returns (fun as => .list (as.map form)) (toList? read) := by
  intro as t alike
  cases t with
  | list items =>
    obtain ⟨bs, found, rfl⟩ := mapM_of_shapes back (list.inj alike)
    exact ⟨bs, found, rfl⟩
  | none | flag | number | mode | text | path | table | «section» => cases alike

theorem returns_texts : Returns texts (toList? toText?) := returns_list returns_text

theorem mapM_of_shapesIn (back : Returns form read) {entries : List (String × Tree)}
    {as : List (String × α)}
    (alike : shapesIn entries = shapesIn (as.map fun (name, a) => (name, form a))) :
    ∃ bs, (entries.mapM fun (name, t) => (read t).map fun a => (name, a)) = some bs ∧
      (bs.map fun (name, a) => (name, form a)) = entries := by
  induction entries generalizing as with
  | nil => exact ⟨[], rfl, rfl⟩
  | cons entry rest ih =>
    cases as with
    | nil => cases alike
    | cons a others =>
      rw [List.map_cons, shapesIn, shapesIn, List.cons.injEq, Prod.mk.injEq] at alike
      obtain ⟨b, found, same⟩ := back a.2 entry.2 alike.1.2
      obtain ⟨bs, rest, rfl⟩ := ih alike.2
      exact ⟨(entry.1, b) :: bs, by simp [found, rest], by simp [same]⟩

theorem returns_table (back : Returns form read) :
    Returns (fun as => .table (as.map fun (name, a) => (name, form a))) (toTable? read) := by
  intro as t alike
  cases t with
  | table entries =>
    obtain ⟨bs, found, rfl⟩ := mapM_of_shapesIn back (table.inj alike)
    exact ⟨bs, found, rfl⟩
  | none | flag | number | mode | text | path | list | «section» => cases alike

/-! ## Sections -/

theorem exists_fields {t : Tree} {name : String} {entries : List (String × Tree)}
    (alike : t.shape = (.section name entries : Tree).shape) :
    ∃ fields, t = .section name fields ∧ shapesIn fields = shapesIn entries := by
  cases t with
  | «section» other fields =>
    rw [shape, shape, section.injEq] at alike
    exact ⟨fields, by rw [alike.1], alike.2⟩
  | none | flag | number | mode | text | path | list | table => cases alike

theorem shapesIn_eq_cons {fields rest : List (String × Tree)} {key : String} {t : Tree} :
    shapesIn fields = (key, t) :: rest ↔
      ∃ part others, fields = (key, part) :: others ∧ part.shape = t ∧ shapesIn others = rest := by
  cases fields with
  | nil => simp [shapesIn]
  | cons field others =>
    obtain ⟨other, part⟩ := field
    simp only [shapesIn, List.cons.injEq, Prod.mk.injEq]
    constructor
    · rintro ⟨⟨rfl, alike⟩, others'⟩
      exact ⟨part, others, ⟨⟨rfl, rfl⟩, rfl⟩, alike, others'⟩
    · rintro ⟨_, _, ⟨⟨rfl, rfl⟩, rfl⟩, alike, others'⟩
      exact ⟨⟨rfl, alike⟩, others'⟩

theorem shapesIn_eq_nil {fields : List (String × Tree)} : shapesIn fields = [] ↔ fields = [] := by
  cases fields <;> simp [shapesIn]

theorem returns_git : Returns ofGit toGit? := by
  intro g t alike
  obtain ⟨fields, rfl, same⟩ := exists_fields alike
  simp only [shapesIn, shapesIn_eq_cons, shapesIn_eq_nil] at same
  obtain ⟨_, _, rfl, one, _, _, rfl, two, _, _, rfl, three, _, _, rfl, four, rfl⟩ := same
  obtain ⟨directory, readDirectory, rfl⟩ := returns_path _ _ one
  obtain ⟨branch, readBranch, rfl⟩ := returns_text _ _ two
  obtain ⟨ignored, readIgnored, rfl⟩ := returns_texts _ _ three
  obtain ⟨timeout, readTimeout, rfl⟩ := returns_ofOption returns_number (by simp) _ _ four
  refine ⟨⟨directory, branch, ignored, timeout⟩, ?_, rfl⟩
  simp [toGit?, field?, List.lookup_cons, readDirectory, readBranch, readIgnored, readTimeout]

theorem exists_sink {fields rest : List (String × Tree)} {s : Config.Sink}
    (same : shapesIn fields = shapesIn (ofSinkFields s ++ rest)) :
    ∃ s' others, fields = ofSinkFields s' ++ others ∧ shapesIn others = shapesIn rest := by
  simp only [ofSinkFields, List.cons_append, List.nil_append, shapesIn, shapesIn_eq_cons] at same
  obtain ⟨_, _, rfl, one, _, _, rfl, two, _, _, rfl, three, _, others, rfl, four, same⟩ := same
  obtain ⟨enabled, -, rfl⟩ := returns_flag _ _ one
  obtain ⟨level, -, rfl⟩ := returns_ofOption returns_text (by simp) _ _ two
  obtain ⟨escaped, -, rfl⟩ := returns_flag _ _ three
  obtain ⟨template, -, rfl⟩ := returns_ofOption returns_text (by simp) _ _ four
  exact ⟨⟨enabled, level, escaped, template⟩, others, rfl, same⟩

theorem toOption?_ofOption_text (s : Option String) :
    toOption? toText? (ofOption .text s) = some s := by
  cases s <;> rfl

theorem toSink?_ofSinkFields (name : String) (s : Config.Sink) (others : List (String × Tree)) :
    toSink? (.section name (ofSinkFields s ++ others)) = some s := by
  simp [toSink?, ofSinkFields, field?, List.lookup_cons, toFlag?, toOption?_ofOption_text]

theorem returns_console : Returns ofConsole toConsole? := by
  intro c t alike
  obtain ⟨fields, rfl, same⟩ := exists_fields alike
  obtain ⟨sink, others, rfl, rest⟩ := exists_sink same
  simp only [shapesIn, shapesIn_eq_cons, shapesIn_eq_nil] at rest
  obtain ⟨_, _, rfl, one, _, _, rfl, two, rfl⟩ := rest
  obtain ⟨verbose, readVerbose, rfl⟩ := returns_flag _ _ one
  obtain ⟨colors, readColors, rfl⟩ := returns_text _ _ two
  refine ⟨⟨sink, verbose, colors⟩, ?_, rfl⟩
  rw [toConsole?, toSink?_ofSinkFields]
  simp [ofSinkFields, field?, List.lookup_cons, readVerbose, readColors]

theorem returns_file : Returns ofFile toFile? := by
  intro f t alike
  obtain ⟨fields, rfl, same⟩ := exists_fields alike
  obtain ⟨sink, others, rfl, rest⟩ := exists_sink same
  simp only [shapesIn, shapesIn_eq_cons, shapesIn_eq_nil] at rest
  obtain ⟨_, _, rfl, one, rfl⟩ := rest
  obtain ⟨path, readPath, rfl⟩ := returns_text _ _ one
  refine ⟨⟨sink, path⟩, ?_, rfl⟩
  rw [toFile?, toSink?_ofSinkFields]
  simp [ofSinkFields, field?, List.lookup_cons, readPath]

theorem returns_logger : Returns ofLogger toLogger? := by
  intro l t alike
  obtain ⟨fields, rfl, same⟩ := exists_fields alike
  simp only [shapesIn, shapesIn_eq_cons, shapesIn_eq_nil] at same
  obtain ⟨_, _, rfl, one, _, _, rfl, two, _, _, rfl, three, rfl⟩ := same
  obtain ⟨level, readLevel, rfl⟩ := returns_text _ _ one
  obtain ⟨console, readConsole, rfl⟩ := returns_console _ _ two
  obtain ⟨file, readFile, rfl⟩ := returns_file _ _ three
  refine ⟨⟨level, console, file⟩, ?_, rfl⟩
  simp [toLogger?, field?, List.lookup_cons, readLevel, readConsole, readFile]

/-- Strictness has no texts, so its tree is known by its shape. -/
theorem eq_ofStrictness_of_shape {s : Strictness} {t : Tree}
    (alike : t.shape = (ofStrictness s).shape) : t = ofStrictness s := by
  refine eq_of_shape alike fun address listed => ?_
  rw [addresses_congr alike] at listed
  cases listed

theorem toStrictness?_ofStrictness (s : Strictness) : (ofStrictness s).toStrictness? = some s := by
  have values : Toggle.all.mapM (fun toggle => do
      pure (toggle, ← (← (ofStrictness s).field? toggle.field).toFlag?)) =
      some (Toggle.all.map fun toggle => (toggle, s.enabled toggle)) := rfl
  rw [toStrictness?, values]
  simp only [Option.bind_eq_bind, Option.bind_some, Option.pure_def, Option.some.injEq]
  cases s with
  | mk enabled =>
    congr 1
    funext toggle
    cases toggle <;> rfl

theorem returns_strictness : Returns ofStrictness toStrictness? := fun s t alike =>
  ⟨s, by rw [eq_ofStrictness_of_shape alike, toStrictness?_ofStrictness],
    (eq_ofStrictness_of_shape alike).symm⟩

theorem returns_compiler : Returns ofCompiler toCompiler? := by
  intro c t alike
  obtain ⟨fields, rfl, same⟩ := exists_fields alike
  simp only [shapesIn, shapesIn_eq_cons, shapesIn_eq_nil] at same
  obtain ⟨_, _, rfl, one, _, _, rfl, two, _, _, rfl, three, _, _, rfl, four, _, _, rfl, five,
    rfl⟩ := same
  obtain ⟨command, readCommand, rfl⟩ := returns_text _ _ one
  obtain ⟨options, readOptions, rfl⟩ := returns_strictness _ _ two
  obtain ⟨codes, readCodes, rfl⟩ := returns_list returns_number _ _ three
  obtain ⟨timeout, readTimeout, rfl⟩ := returns_ofOption returns_number (by simp) _ _ four
  obtain ⟨mode, readMode, rfl⟩ := returns_mode _ _ five
  refine ⟨⟨command, options, codes, timeout, mode⟩, ?_, rfl⟩
  simp [toCompiler?, field?, List.lookup_cons, readCommand, readOptions, readCodes, readTimeout,
    readMode]

theorem returns_config : Returns ofConfig toConfig? := by
  intro c t alike
  obtain ⟨fields, rfl, same⟩ := exists_fields alike
  simp only [shapesIn, shapesIn_eq_cons, shapesIn_eq_nil] at same
  obtain ⟨_, _, rfl, one, _, _, rfl, two, _, _, rfl, three, _, _, rfl, four, _, _, rfl, five,
    _, _, rfl, six, rfl⟩ := same
  obtain ⟨logger, readLogger, rfl⟩ := returns_logger _ _ one
  obtain ⟨git, readGit, rfl⟩ := returns_git _ _ two
  obtain ⟨compiler, readCompiler, rfl⟩ := returns_compiler _ _ three
  obtain ⟨level, readLevel, rfl⟩ := returns_text _ _ four
  obtain ⟨root, readRoot, rfl⟩ := returns_path _ _ five
  obtain ⟨commands, readCommands, rfl⟩ := returns_table (returns_table returns_text) _ _ six
  refine ⟨⟨logger, git, compiler, level, root, commands⟩, ?_, rfl⟩
  simp [toConfig?, field?, List.lookup_cons, readLogger, readGit, readCompiler, readLevel, readRoot,
    readCommands]

theorem returns_override : Returns ofOverride toOverride? := by
  intro o t alike
  obtain ⟨fields, rfl, same⟩ := exists_fields alike
  simp only [shapesIn, shapesIn_eq_cons, shapesIn_eq_nil] at same
  obtain ⟨_, _, rfl, one, _, _, rfl, two, _, _, rfl, three, rfl⟩ := same
  obtain ⟨branch, readBranch, rfl⟩ := returns_ofOption returns_text (by simp) _ _ one
  obtain ⟨ignored, readIgnored, rfl⟩ := returns_ofOption returns_texts (by simp [texts]) _ _ two
  obtain ⟨mode, readMode, rfl⟩ := returns_ofOption returns_mode (by simp) _ _ three
  refine ⟨⟨branch, ignored, mode⟩, ?_, rfl⟩
  simp [toOverride?, field?, List.lookup_cons, readBranch, readIgnored, readMode]

theorem returns_settings (mayCheck : Bool) : Returns (ofSettings mayCheck) toSettings? := by
  intro s t alike
  obtain ⟨fields, rfl, same⟩ := exists_fields alike
  simp only [List.cons_append, List.nil_append, shapesIn, shapesIn_eq_cons] at same
  obtain ⟨_, _, rfl, one, _, others, rfl, two, same⟩ := same
  obtain ⟨config, readConfig, rfl⟩ := returns_config _ _ one
  obtain ⟨includes, readIncludes, rfl⟩ := returns_ofOption returns_texts (by simp [texts]) _ _ two
  cases mayCheck with
  | false =>
    cases shapesIn_eq_nil.mp same
    refine ⟨⟨config, includes, .none⟩, ?_, rfl⟩
    simp [toSettings?, field?, List.lookup_cons, readConfig, readIncludes]
  | true =>
    simp only [if_true, shapesIn, shapesIn_eq_cons, shapesIn_eq_nil] at same
    obtain ⟨_, _, rfl, three, rfl⟩ := same
    obtain ⟨check, readCheck, rfl⟩ :=
      returns_ofOption returns_override (by simp [ofOverride]) _ _ three
    refine ⟨⟨config, includes, check⟩, ?_, rfl⟩
    simp [toSettings?, field?, List.lookup_cons, readConfig, readIncludes, readCheck]

end Tree

/-! ## Settings as written and as loaded -/

theorem Checked.mem_toOption_iff {ε α : Type} {result : Except ε (Checked α)} {a : α} :
    a ∈ result.toOption.bind Checked.toOption ↔ result = .ok (.ok a) := by
  cases result with
  | error failure => simp [Except.toOption]
  | ok read => cases read <;> simp [Except.toOption, Checked.toOption]

namespace Launch

/-- The settings as written, before their references are replaced. -/
def asWritten (launch : Launch) : Except Failure (Checked Settings) := do
  launch.readSettings (← launch.entries)

theorem asWritten_of_entries {launch : Launch} {entries : Mapping}
    (sources : launch.entries = .ok entries) :
    launch.asWritten = launch.readSettings entries := by
  rw [asWritten, sources]
  rfl

/-- Loading is replacing the references in the settings as written. -/
theorem load_eq (launch : Launch) : launch.load = (do
    match ← launch.asWritten with
    | .bad issues => throw (.invalid issues)
    | .ok written =>
      match ← launch.substituted written with
      | .ok settings => return settings
      | .bad issues => throw (.invalid issues)) := by
  rw [load, asWritten]
  cases launch.entries <;> rfl

/-- Settings are loaded if they are read as written and their references can be
replaced. -/
theorem load_eq_ok_iff {launch : Launch} {settings : Settings} :
    launch.load = .ok settings ↔ ∃ written,
      launch.asWritten = .ok (.ok written) ∧ launch.substituted written = .ok (.ok settings) := by
  rw [load_eq]
  cases asWritten launch with
  | error failure => simp [bind, Except.bind]
  | ok read =>
    cases read with
    | bad issues => simp [bind, Except.bind, throw, throwThe, MonadExceptOf.throw]
    | ok written =>
      cases done : launch.substituted written with
      | error failure => simp [bind, Except.bind, done]
      | ok replaced =>
        cases replaced with
        | bad issues => simp [bind, Except.bind, throw, throwThe, MonadExceptOf.throw, done]
        | ok other => simp [bind, Except.bind, pure, Except.pure, done]

/-- The settings as written, if they are as they should be. -/
def written? (launch : Launch) : Option Settings :=
  launch.asWritten.toOption.bind Checked.toOption

theorem mem_written?_iff {launch : Launch} {written : Settings} :
    written ∈ launch.written? ↔ launch.asWritten = .ok (.ok written) :=
  Checked.mem_toOption_iff

/-- The tree of the new settings is the tree in which the references were replaced. -/
theorem expandAll_of_substituted {launch : Launch} {written settings : Settings}
    (replaced : launch.substituted written = .ok (.ok settings)) :
    Tree.expandAll launch.host (Tree.ofSettings launch.mayCheck written) =
      .ok (Tree.ofSettings launch.mayCheck settings) := by
  unfold substituted at replaced
  cases done : Tree.expandAll launch.host (Tree.ofSettings launch.mayCheck written) with
  | error failure =>
    rw [done] at replaced
    dsimp only at replaced
    split at replaced <;> cases replaced
  | ok tree =>
    obtain ⟨back, read, same⟩ :=
      Tree.returns_settings launch.mayCheck written tree (Tree.shape_expandAll done)
    simp only [done, read] at replaced
    cases replaced
    rw [← same, Option.getD_some]

end Launch

end Ratchet
