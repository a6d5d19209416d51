import Ratchet.Settings.Arguments

namespace Ratchet

namespace Arguments

/-!
# Reading a command line step by step

An argument is by itself a value, an option or a mistake, and a command line that is
read holds no mistakes.  So each of its arguments does one of three things: it is taken
by an option that waits, it is the command, with which the reading of options ends, or it
is an option, which takes what it needs at once or waits for it in turn.
-/

/-! ## Names of options -/

/-- An option is named after a place: its variable is, and it is written with two dashes, or
switched off by the same with `no-`. -/
def NamedAfter (start : String) (path : List String) (form : OptionForm) : Prop :=
  form.variableName = start ++ dotted path ∧
    (form.spelling = "--" ++ dotted path ∨ form.spelling = "--no-" ++ dotted path)

theorem NamedAfter.exists_inner {start : String} {path : List String} {form : OptionForm}
    (named : NamedAfter start path form) : ∃ inner, NamedAfter start (path ++ inner) form :=
  ⟨[], by rwa [List.append_nil]⟩

mutual

/-- The options for a setting are named after its place or after one in it. -/
theorem exists_namedAfter_of_mem_optionsAt (start : String) (path : List String) :
    ∀ (outline : Outline) {form : OptionForm}, form ∈ optionsAt start path outline →
      ∃ inner, NamedAfter start (path ++ inner) form
  | .plain, form, listed | .choice _, form, listed | .items .., form, listed
  | .table, form, listed => by
    cases List.mem_singleton.mp listed
    exact NamedAfter.exists_inner ⟨rfl, Or.inl rfl⟩
  | .flag, form, listed => by
    rcases List.mem_cons.mp listed with rfl | listed
    · exact NamedAfter.exists_inner ⟨rfl, Or.inl rfl⟩
    · cases List.mem_singleton.mp listed
      exact NamedAfter.exists_inner ⟨rfl, Or.inr rfl⟩
  | .section _ fields, form, listed => by
    rcases List.mem_cons.mp listed with rfl | listed
    · exact NamedAfter.exists_inner ⟨rfl, Or.inl rfl⟩
    · rcases exists_namedAfter_of_mem_optionsIn start path fields listed with
        ⟨setting, -, inner, named⟩
      exact ⟨_, named⟩

theorem exists_namedAfter_of_mem_optionsIn (start : String) (path : List String) :
    ∀ (fields : List (SettingName × Outline)) {form : OptionForm},
      form ∈ optionsIn start path fields →
        ∃ entry ∈ fields, ∃ inner, NamedAfter start (path ++ entry.1.name :: inner) form
  | [], form, listed => by cases listed
  | (setting, outline) :: rest, form, listed => by
    rcases List.mem_append.mp listed with here | later
    · rcases exists_namedAfter_of_mem_optionsAt start (path ++ [setting.name]) outline here with
        ⟨inner, named⟩
      rw [List.append_assoc, List.singleton_append] at named
      exact ⟨(setting, outline), List.mem_cons_self, inner, named⟩
    · rcases exists_namedAfter_of_mem_optionsIn start path rest later with
        ⟨entry, member, named⟩
      exact ⟨entry, List.mem_cons_of_mem _ member, named⟩

end

/-- A dotted name begins like the first name in it. -/
theorem toList_dotted_cons (name : String) (inner : List String) :
    ∃ more, (dotted (name :: inner)).toList = Case.lowerAfter [] (name.toList ++ more) := by
  unfold dotted Text.lower
  rw [String.toList_ofList]
  cases inner with
  | nil => exact ⟨[], by rw [List.append_nil]; rfl⟩
  | cons next rest =>
    exact ⟨_, by rw [Text.toList_join_cons "." name (List.cons_ne_nil next rest)]⟩

/-! ## What one argument is -/

variable {options : List OptionForm} {s text : String} {after others : List String}
  {form : OptionForm} {given : Option String}

theorem find?_spelling_eq_some {name : String}
    (found : (options.find? fun form => form.spelling == name) = some form) :
    form ∈ options ∧ form.spelling = name := by
  have spelled := List.find?_some found
  exact ⟨List.mem_of_find?_eq_some found, beq_iff_eq.mp spelled⟩

/-- An argument is no option, an option in full, alone or with something behind an equals
sign, or the beginning of one. -/
theorem token_cases (options : List OptionForm) (s : String) (after : List String) :
    token options s after ∈ [.value s after, .dashes, .unknown, .ambiguous] ∨
      (∃ form ∈ options, form.spelling = s ∧ token options s after = .option form none) ∨
      (∃ form ∈ options, ∃ text, assignment? s = some (form.spelling, text) ∧
        token options s after = .option form (some text)) ∨
      Text.startsWith s "-" = true ∧ s ≠ "-" ∧ token options s after ∈ candidates options s := by
  unfold token
  dsimp only
  split
  · exact Or.inl (by simp)
  next starts =>
  split
  · exact Or.inl (by simp)
  split
  · next form found =>
    rcases find?_spelling_eq_some found with ⟨member, same⟩
    exact Or.inr (Or.inl ⟨form, member, same, rfl⟩)
  split
  · exact Or.inl (by simp)
  next long =>
  split
  · next form text found =>
    rcases Option.bind_eq_some_iff.mp found with ⟨⟨name, value⟩, cut, looked⟩
    rcases Option.map_eq_some_iff.mp looked with ⟨candidate, met, same⟩
    cases same
    rcases find?_spelling_eq_some met with ⟨member, rfl⟩
    exact Or.inr (Or.inr (Or.inl ⟨_, member, _, cut, rfl⟩))
  split
  · next found only =>
    refine Or.inr (Or.inr (Or.inr ⟨by simpa using starts, long, ?_⟩))
    rw [only]
    exact List.mem_singleton_self found
  · split
    · exact Or.inl (by simp)
    · exact Or.inl (by simp)
  · exact Or.inl (by simp)

/-- What is only begun is an option, or one of a single letter, and takes no value. -/
theorem mem_candidates {t : Token} (listed : t ∈ candidates options s) :
    Text.startsWith s "--" = false ∧ ∃ form ∈ options,
      (∃ more, t = .letters form more) ∨
        t = .option form none ∧ Text.startsWith form.spelling s = true := by
  unfold candidates at listed
  split at listed
  · cases listed
  · next short =>
    rcases List.mem_filterMap.mp listed with ⟨form, member, same⟩
    refine ⟨Bool.of_not_eq_true short, form, member, ?_⟩
    split at same
    · cases same
      exact Or.inl ⟨_, rfl⟩
    · split at same
      · next begins =>
        cases same
        exact Or.inr ⟨rfl, begins⟩
      · cases same

theorem toList_of_assignment? {name : String} (cut : assignment? s = some (name, text)) :
    s.toList = name.toList ++ '=' :: text.toList := by
  rcases Option.map_eq_some_iff.mp cut with ⟨⟨front, back⟩, found, same⟩
  cases same
  rw [String.toList_ofList, String.toList_ofList]
  exact Cut.eq_append_of_atFirst? found

theorem find?_spelling_of_mem (member : form ∈ options)
    (only : ∀ other ∈ options, other.spelling = form.spelling → other = form) :
    (options.find? fun other => other.spelling == form.spelling) = some form := by
  cases found : options.find? fun other => other.spelling == form.spelling with
  | none => exact absurd (beq_self_eq_true _) (List.find?_eq_none.mp found form member)
  | some other =>
    rcases find?_spelling_eq_some found with ⟨listed, same⟩
    rw [only other listed same]

/-- The name of one option with a text behind an equals sign is that option. -/
theorem token_of_assignment? (member : form ∈ options)
    (only : ∀ other ∈ options, other.spelling = form.spelling → other = form)
    (dashed : Text.startsWith form.spelling "-" = true)
    (unnamed : ∀ other ∈ options, other.spelling ≠ s)
    (cut : assignment? s = some (form.spelling, text)) :
    token options s after = .option form (some text) := by
  have whole := toList_of_assignment? cut
  have signed : '=' ∈ s.toList := by simp [whole]
  have starts : Text.startsWith s "-" = true := by
    rw [Text.startsWith, List.isPrefixOf_iff_prefix] at dashed ⊢
    rw [whole]
    exact dashed.trans (List.prefix_append _ _)
  have noOption : (options.find? fun other => other.spelling == s) = none :=
    List.find?_eq_none.mpr fun other listed same => unnamed other listed (beq_iff_eq.mp same)
  have notOne : s ≠ "-" := fun same => by simp [same] at signed
  have notTwo : s ≠ "--" := fun same => by simp [same] at signed
  simp only [token, starts, notTwo, noOption, notOne, cut, find?_spelling_of_mem member only,
    Bool.not_true, Bool.false_eq_true, if_false, Option.bind_some, Option.map_some]

theorem token_of_spelling (member : form ∈ options)
    (only : ∀ other ∈ options, other.spelling = form.spelling → other = form)
    (dashed : Text.startsWith form.spelling "-" = true) (notTwo : form.spelling ≠ "--") :
    token options form.spelling after = .option form none := by
  simp only [token, dashed, notTwo, find?_spelling_of_mem member only, Bool.not_true,
    Bool.false_eq_true, if_false]

theorem eq_of_token_eq_value (is : token options s after = .value text others) :
    text = s ∧ others = after := by
  have cases := token_cases options s after
  rw [is] at cases
  rcases cases with plain | ⟨form, -, -, other⟩ | ⟨form, -, given, -, other⟩ | ⟨-, -, begun⟩
  · simpa using plain
  · cases other
  · cases other
  · rcases mem_candidates begun with ⟨-, form, -, ⟨more, other⟩ | ⟨other, -⟩⟩
    · cases other
    · cases other

/-- An option is written in full, with a value behind an equals sign, or with one dash
and not to its end. -/
theorem token_eq_option (is : token options s after = .option form given) :
    form ∈ options ∧
      match given with
      | some text => assignment? s = some (form.spelling, text)
      | none => form.spelling = s ∨
        s ≠ "-" ∧ Text.startsWith s "-" = true ∧ Text.startsWith s "--" = false ∧
          Text.startsWith form.spelling s = true := by
  have cases := token_cases options s after
  rw [is] at cases
  rcases cases with plain | ⟨_, member, full, same⟩ | ⟨_, member, _, cut, same⟩ |
    ⟨starts, long, begun⟩
  · simp at plain
  · cases same
    exact ⟨member, Or.inl full⟩
  · cases same
    exact ⟨member, cut⟩
  · rcases mem_candidates begun with ⟨short, other, member, ⟨more, same⟩ | ⟨same, begins⟩⟩
    · cases same
    · cases same
      exact ⟨member, Or.inr ⟨long, starts, short, begins⟩⟩

/-! ## What is given for a variable -/

namespace Found

variable {found inner : Found} {name : String}

/-- Replacing what is given for one variable leaves what is given for another. -/
theorem lookup_map_of_ne {other : String} (apart : other ≠ name) (given : Given) :
    (found.map fun entry => if entry.1 == other then (entry.1, given) else entry).lookup name =
      found.lookup name := by
  induction found with
  | nil => rfl
  | cons entry rest ih =>
    rcases entry with ⟨key, before⟩
    rw [List.map_cons]
    by_cases same : key = other
    · have elsewhere : (name == key) = false := by
        rw [same]
        exact beq_false_of_ne apart.symm
      simp only [beq_iff_eq, same, if_true, List.lookup_cons]
      rw [← same, elsewhere]
      simpa [same] using ih
    · simp only [beq_iff_eq, same, if_false, List.lookup_cons]
      simp only [beq_iff_eq] at ih
      rw [ih]

theorem lookup_map_self (there : (found.lookup name).isSome) (given : Given) :
    (found.map fun entry => if entry.1 == name then (entry.1, given) else entry).lookup name =
      some given := by
  induction found with
  | nil => cases there
  | cons entry rest ih =>
    rcases entry with ⟨key, before⟩
    rw [List.map_cons]
    by_cases same : key = name
    · simp [same]
    · have elsewhere : (name == key) = false := beq_false_of_ne (Ne.symm same)
      simp only [List.lookup_cons, elsewhere] at there
      simp only [beq_iff_eq, same, if_false, List.lookup_cons, elsewhere]
      simpa using ih there

theorem lookup_add_of_ne (apart : form.variableName ≠ name) (text : String) :
    (found.add form text).lookup name = found.lookup name := by
  unfold add
  dsimp only
  split
  · exact lookup_map_of_ne apart _
  · have elsewhere : (name == form.variableName) = false := beq_false_of_ne apart.symm
    rw [List.lookup_append, List.lookup_cons, elsewhere, List.lookup_nil, Option.or_none]

/-- The texts given for a variable that takes several. -/
def texts (name : String) (found : Found) : List String :=
  match found.lookup name with
  | some (.items _ texts) => texts
  | _ => []

theorem lookup_add_self {kind : ItemKind} (several : form.takes = .items kind) (text : String) :
    (found.add form text).lookup form.variableName =
      some (.items kind (found.texts form.variableName ++ [text])) := by
  unfold add texts
  rw [several]
  dsimp only
  split
  · next there =>
    rw [lookup_map_self there]
    rcases found.lookup form.variableName with _ | _ | _ | _ | _ <;> rfl
  · next absent =>
    rw [Option.not_isSome_iff_eq_none] at absent
    rw [List.lookup_append, absent, Option.none_or, List.lookup_cons_self]
    rfl

theorem texts_add_self {kind : ItemKind} (several : form.takes = .items kind) (text : String) :
    (found.add form text).texts form.variableName = found.texts form.variableName ++ [text] := by
  rw [texts, lookup_add_self several]

theorem texts_append (absent : inner.lookup name = none) :
    (found ++ inner).texts name = found.texts name := by
  unfold texts
  rw [List.lookup_append, absent, Option.or_none]

end Found

/-! ## One step of the reading -/

/-- What is found and what waits behind an option. -/
def taken? (found : Found) (form : OptionForm) (given : Option String) :
    Option (Found × Option OptionForm) :=
  match form.takes, given with
  | .help, _ => none
  | .switch _, none => some (found.add form "", none)
  | .switch _, some _ => none
  | _, some text => some (found.add form text, none)
  | _, none => some (found, some form)

variable {command : String → List String → Option Outcome} {tooMuch : Bool} {found final : Found}
  {waiting : Option OptionForm} {chosen : Option String} {t : Token} {rest : List Token}

/-- True of an option that takes the next argument if nothing is written right behind it. -/
def waits (form : OptionForm) : Bool :=
  match form.takes with
  | .help | .switch _ => false
  | _ => true

/-- How many of the arguments stand in front of the command, which is the first value that
no option waits for. -/
def front : (waiting : Bool) → List Token → Nat
  | _, [] => 0
  | true, .value .. :: rest => front false rest + 1
  | false, .value .. :: _ => 0
  | _, .option form given :: rest => front (given.isNone && waits form) rest + 1
  | _, _ :: rest => front false rest + 1

theorem isSome_of_taken? {found : Found} {next : Found × Option OptionForm}
    (takes : taken? found form given = some next) :
    next.2.isSome = (given.isNone && waits form) := by
  rcases form with ⟨_, _, kind⟩
  cases kind <;> cases given <;> cases takes <;> rfl

theorem readTokens_option (form : OptionForm) (given : Option String) :
    readTokens command tooMuch found waiting (.option form given :: rest) =
      match settled? found waiting with
      | none => .wrong
      | some settled =>
        match taken? settled form given with
        | none => if form.takes = .help ∧ given = none then .help else .wrong
        | some next => readTokens command tooMuch next.1 next.2 rest := by
  rw [readTokens]
  · rcases form with ⟨_, _, takes⟩
    cases settled? found waiting with
    | none => rfl
    | some settled => cases takes <;> cases given <;> rfl
  · intro _ _ _ _ other
    cases other

/-- What a token does to a command line that is read. -/
theorem readTokens_cons_cases
    (read : readTokens command tooMuch found waiting (t :: rest) = .read final chosen) :
    (∃ form text after, waiting = some form ∧ t = .value text after ∧
        readTokens command tooMuch (found.add form text) none rest = .read final chosen) ∨
      (∃ text after inner, waiting = none ∧ t = .value text after ∧ tooMuch = false ∧
        command text after = some (.read inner chosen) ∧ final = found ++ inner) ∨
      (∃ form given settled next, t = .option form given ∧
        settled? found waiting = some settled ∧ taken? settled form given = some next ∧
        readTokens command tooMuch next.1 next.2 rest = .read final chosen) ∨
      ∃ settled, readTokens command true settled none rest = .read final chosen := by
  cases t with
  | value text after =>
    cases waiting with
    | some form => exact Or.inl ⟨form, text, after, rfl, rfl, read⟩
    | none =>
      rw [readTokens, settled?] at read
      · dsimp only at read
        split at read
        · exact Or.inr (Or.inr (Or.inr ⟨found, read⟩))
        · next inner other comes =>
          cases tooMuch with
          | true => cases read
          | false =>
            cases read
            exact Or.inr (Or.inl ⟨text, after, inner, rfl, rfl, rfl, comes, rfl⟩)
        · next ends comes =>
          exact absurd read (ends _ _)
      · intro _ _ _ other
        cases other
  | option form given =>
    rw [readTokens_option] at read
    split at read
    · cases read
    next settled settles =>
    split at read
    · split at read <;> cases read
    · next next takes =>
      exact Or.inr (Or.inr (Or.inl ⟨form, given, settled, next, rfl, settles, takes, read⟩))
  | letters form more =>
    rw [readTokens] at read
    · split at read
      · cases read
      · dsimp only at read
        split at read <;> cases read
    · intro _ _ _ _ other
      cases other
  | dashes | ambiguous =>
    rw [readTokens] at read
    · split at read <;> cases read
    · intro _ _ _ _ other
      cases other
  | unknown =>
    rw [readTokens] at read
    · split at read
      · cases read
      · next settled _ => exact Or.inr (Or.inr (Or.inr ⟨settled, read⟩))
    · intro _ _ _ _ other
      cases other

/-- What is too much is never made good. -/
theorem readTokens_tooMuch (ts : List Token) :
    readTokens command true found waiting ts ≠ .read final chosen := by
  induction ts generalizing found waiting with
  | nil =>
    rw [readTokens]
    split
    · exact fun read => by cases read
    · exact fun read => by cases read
  | cons t rest ih =>
    intro read
    rcases readTokens_cons_cases read with ⟨_, _, _, -, -, later⟩ | ⟨_, _, _, -, -, fine, -⟩ |
      ⟨_, _, _, _, -, -, -, later⟩ | ⟨_, later⟩
    · exact ih later
    · cases fine
    · exact ih later
    · exact ih later

/-- So each token of a command line that is read is taken by an option that waits, is the
command or is an option. -/
theorem readTokens_cons_eq_read
    (read : readTokens command false found waiting (t :: rest) = .read final chosen) :
    (∃ form text after, waiting = some form ∧ t = .value text after ∧
        readTokens command false (found.add form text) none rest = .read final chosen) ∨
      (∃ text after inner, waiting = none ∧ t = .value text after ∧
        command text after = some (.read inner chosen) ∧ final = found ++ inner) ∨
      ∃ form given settled next, t = .option form given ∧
        settled? found waiting = some settled ∧ taken? settled form given = some next ∧
        readTokens command false next.1 next.2 rest = .read final chosen := by
  rcases readTokens_cons_cases read with taken | ⟨text, after, inner, idle, is, -, comes, all⟩ |
    isOption | ⟨_, mistaken⟩
  · exact Or.inl taken
  · exact Or.inr (Or.inl ⟨text, after, inner, idle, is, comes, all⟩)
  · exact Or.inr (Or.inr isOption)
  · exact absurd mistaken (readTokens_tooMuch rest)

/-! ## Variables that no option sets -/

variable {name : String} {arguments : List String}

theorem lookup_of_settled? {settled : Found} (settles : settled? found waiting = some settled)
    (foreign : ∀ form ∈ waiting, form.variableName ≠ name) :
    settled.lookup name = found.lookup name := by
  cases waiting with
  | none =>
    cases settles
    rfl
  | some form =>
    rw [settled?] at settles
    split at settles
    · cases settles
      exact Found.lookup_add_of_ne (foreign form rfl) _
    · cases settles

theorem lookup_of_taken? {next : Found × Option OptionForm}
    (takes : taken? found form given = some next) (foreign : form.variableName ≠ name) :
    next.1.lookup name = found.lookup name ∧ ∀ other ∈ next.2, other = form := by
  unfold taken? at takes
  split at takes
  · cases takes
  · cases takes
    exact ⟨Found.lookup_add_of_ne foreign _, fun _ none => by cases none⟩
  · cases takes
  · cases takes
    exact ⟨Found.lookup_add_of_ne foreign _, fun _ none => by cases none⟩
  · cases takes
    exact ⟨rfl, fun _ same => (Option.some.inj same).symm⟩

/-- A command line without a command leaves what none of its options sets, and there is
nothing in it that is not understood. -/
theorem lookup_of_read (foreign : ∀ form ∈ options, form.variableName ≠ name)
    (idle : ∀ form ∈ waiting, form.variableName ≠ name)
    (read : readTokens (fun _ _ => none) false found waiting (tokens options arguments) =
      .read final chosen) :
    final.lookup name = found.lookup name ∧
      ∀ s ∈ arguments, ∃ after, token options s after ≠ .unknown := by
  induction arguments generalizing found waiting with
  | nil =>
    rw [tokens, readTokens] at read
    split at read
    · next settled settles =>
      cases read
      exact ⟨lookup_of_settled? settles idle, fun _ listed => by cases listed⟩
    · cases read
  | cons s rest ih =>
    rcases readTokens_cons_eq_read read with ⟨form, text, after, rfl, is, later⟩ |
      ⟨_, _, _, -, -, impossible, -⟩ | ⟨form, given, settled, next, is, settles, takes, later⟩
    · rcases ih (fun _ none => by cases none) later with ⟨same, known⟩
      refine ⟨same.trans (Found.lookup_add_of_ne (idle form rfl) text),
        List.forall_mem_cons.mpr ⟨⟨rest, ?_⟩, known⟩⟩
      rw [is]
      exact fun other => by cases other
    · cases impossible
    · have apart := foreign form (token_eq_option is).1
      rcases lookup_of_taken? takes apart with ⟨untouched, onlyForm⟩
      rcases ih (fun other waits => onlyForm other waits ▸ apart) later with ⟨same, known⟩
      refine ⟨same.trans (untouched.trans (lookup_of_settled? settles idle)),
        List.forall_mem_cons.mpr ⟨⟨rest, ?_⟩, known⟩⟩
      rw [is]
      exact fun other => by cases other

end Arguments

end Ratchet
