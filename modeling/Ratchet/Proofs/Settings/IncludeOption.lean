import Mathlib.Data.List.Basic
import Ratchet.Proofs.Settings.Arguments
import Ratchet.Settings.Load

namespace Ratchet

/-!
# Files to include, read twice

The files to include are read off the command line in two ways.  The reader of options
knows the option in any case of its letters, with the file as the next argument or behind
an equals sign, and ends at the command.  The layers ask only where an argument is the
option to the letter and take the argument behind it.  On a command line that is read the
second way finds nothing that the first does not, but it overlooks every other spelling,
and then a file is bound to the option and not loaded.
-/

open Arguments

/-- How a command line names a file to include. -/
inductive Inclusion where
  /-- The option, and the file as the next argument. -/
  | apart (flag file : String)
  /-- The option with the file behind an equals sign. -/
  | joined (file : String)
  deriving DecidableEq

namespace Inclusion

/-- The option that takes files to include. -/
def option : OptionForm := ⟨"--include", "include", .items .text⟩

/-- The file that the option is given. -/
def bound : Inclusion → String
  | apart _ file => inSmallLetters file
  | joined file => file

/-- The file that becomes a layer. -/
def loaded? : Inclusion → Option String
  | apart flag file => if flag = option.spelling then some file else none
  | joined _ => none

/-- The inclusions among arguments, in order.  An option that stands alone takes the next
argument, whatever that is. -/
def all : (flag : Option String) → List String → List Inclusion
  | _, [] => []
  | some flag, file :: rest => apart flag file :: all none rest
  | none, argument :: rest =>
    if inSmallLetters argument = option.spelling then all (some argument) rest
    else
      match assignment? (inSmallLetters argument) with
      | some (name, file) =>
        if name = option.spelling then joined file :: all none rest else all none rest
      | none => all none rest

/-- The options of the program. -/
abbrev options : List OptionForm := programOptions Outline.settings

/-! ## The option among the others -/

/-- Any other option sets another variable and is written in another way, with or without
something behind it. -/
def Foreign (form : OptionForm) : Prop :=
  form.variableName ≠ option.variableName ∧ ¬ option.spelling.toList <+: form.spelling.toList

theorem toList_dotted_config (inner : List String) :
    ∃ more, (dotted ("config" :: inner)).toList = 'c' :: more := by
  rcases toList_dotted_cons "config" inner with ⟨more, whole⟩
  exact ⟨_, whole⟩

theorem foreign_of_namedAfter_config {inner : List String} {form : OptionForm}
    (named : NamedAfter "" ("config" :: inner) form) : Foreign form := by
  rcases toList_dotted_config inner with ⟨more, begins⟩
  rcases named with ⟨variableNamed, spelled⟩
  constructor
  · intro same
    have whole := congrArg String.toList (variableNamed.symm.trans same)
    rw [String.toList_append, begins] at whole
    cases whole
  · intro longer
    rcases spelled with spelled | spelled
    · rw [spelled, String.toList_append, begins] at longer
      simp [option] at longer
    · rw [spelled, String.toList_append, begins] at longer
      simp [option] at longer

theorem eq_option_or_foreign : ∀ form ∈ options, form = option ∨ Foreign form := by
  intro form listed
  rcases List.mem_append.mp listed with help | listed
  · have foreign : ∀ form ∈ helpOptions, Foreign form := by
      unfold Foreign
      decide +kernel
    exact Or.inr (foreign form help)
  rcases List.mem_append.mp listed with config | listed
  · rcases exists_namedAfter_of_mem_optionsAt "" ["config"] Outline.config config with
      ⟨inner, named⟩
    exact Or.inr (foreign_of_namedAfter_config named)
  · have only : optionsIn "" [] [({ name := "include" }, .items false .text)] = [option] := by
      decide +kernel
    exact Or.inl (List.mem_singleton.mp (only ▸ listed))

theorem option_mem : option ∈ options := by
  have here : option ∈ optionsIn "" [] [({ name := "include" }, .items false .text)] := by
    decide +kernel
  exact List.mem_append_right _ (List.mem_append_right _ here)

theorem eq_option_of_spelling {form : OptionForm} (listed : form ∈ options)
    (same : form.spelling = option.spelling) : form = option := by
  rcases eq_option_or_foreign form listed with isOption | ⟨-, foreign⟩
  · exact isOption
  · exact absurd (same ▸ List.prefix_rfl) foreign

variable {s : String} {after : List String} {given : Option String}

theorem token_option : token options option.spelling after = .option option none :=
  token_of_spelling option_mem (fun _ => eq_option_of_spelling) (by decide +kernel) (by decide)

theorem token_joined {file : String} (cut : assignment? s = some (option.spelling, file)) :
    token options s after = .option option (some file) := by
  have whole := toList_of_assignment? cut
  refine token_of_assignment? option_mem (fun _ => eq_option_of_spelling) (by decide +kernel) ?_ cut
  intro form listed same
  have longer : option.spelling.toList <+: form.spelling.toList := by
    rw [same, whole]
    exact List.prefix_append _ _
  rcases eq_option_or_foreign form listed with rfl | ⟨-, foreign⟩
  · rw [← same] at whole
    exact List.cons_ne_nil _ _ (List.self_eq_append_right.mp whole)
  · exact foreign longer

/-- Nothing with one dash is the beginning of the option. -/
theorem not_begun (long : s ≠ "-") (dashed : Text.startsWith s "-" = true)
    (single : Text.startsWith s "--" = false) : Text.startsWith option.spelling s = false := by
  rw [Bool.eq_false_iff]
  intro begins
  have start : s.toList <+: option.spelling.toList := List.isPrefixOf_iff_prefix.mp begins
  rcases List.isPrefixOf_iff_prefix.mp dashed with ⟨rest, whole⟩
  rw [← whole] at start
  cases rest with
  | nil => exact long (String.toList_inj.mp whole.symm)
  | cons c rest =>
    rcases List.cons_prefix_cons.mp (List.cons_prefix_cons.mp start).2 with ⟨rfl, -⟩
    have double : "--".toList <+: s.toList := whole ▸ List.prefix_append ['-', '-'] rest
    rw [Text.startsWith, List.isPrefixOf_iff_prefix.mpr double] at single
    cases single

/-- The option is written in full, alone or with a file behind an equals sign. -/
theorem token_eq_option_iff : token options s after = .option option given ↔
    match given with
    | none => s = option.spelling
    | some file => assignment? s = some (option.spelling, file) := by
  constructor
  · intro is
    have written := (token_eq_option is).2
    cases given with
    | some file => exact written
    | none =>
      rcases written with full | ⟨long, dashed, single, begins⟩
      · exact full.symm
      · rw [not_begun long dashed single] at begins
        cases begins
  · intro written
    cases given with
    | some file => exact token_joined written
    | none => exact written ▸ token_option

/-! ## The arguments one by one -/

variable {argument : String} {rest : List String}

theorem inSmallLetters_option : inSmallLetters option.spelling = option.spelling := by
  decide +kernel

/-- What is not the option adds nothing. -/
theorem all_cons_of_ne {t : Token} (is : token options (inSmallLetters argument) after = t)
    (other : ∀ given, t ≠ .option option given) : all none (argument :: rest) = all none rest := by
  have notAlone : inSmallLetters argument ≠ option.spelling := by
    intro same
    exact other none (is.symm.trans (token_eq_option_iff.mpr same))
  rw [all, if_neg notAlone]
  split
  · next name file cut =>
    refine if_neg fun same => ?_
    exact other (some file) (is.symm.trans (token_eq_option_iff.mpr (same ▸ cut)))
  · rfl

theorem all_cons_joined {file : String}
    (is : token options (inSmallLetters argument) after = .option option (some file)) :
    all none (argument :: rest) = joined file :: all none rest := by
  have cut : assignment? (inSmallLetters argument) = some (option.spelling, file) :=
    token_eq_option_iff.mp is
  have notAlone : inSmallLetters argument ≠ option.spelling := by
    intro same
    rw [same, token_option] at is
    cases is
  rw [all, if_neg notAlone, cut]
  exact if_pos rfl

theorem all_cons_alone (is : inSmallLetters argument = option.spelling) :
    all none (argument :: rest) = all (some argument) rest := by
  rw [all, if_pos is]

/-! ## The layers -/

theorem included_cons_of_ne (other : argument ≠ option.spelling) (first : String) :
    Layers.included (first :: argument :: rest) = Layers.included (argument :: rest) := by
  cases rest with
  | nil => rfl
  | cons next rest => exact List.filterMap_cons_none (if_neg other)

theorem included_cons (first flag file : String) {others : List Inclusion}
    (later : Layers.included (flag :: file :: rest) = others.filterMap loaded?) :
    Layers.included (first :: flag :: file :: rest) =
      (apart flag file :: others).filterMap loaded? := by
  by_cases same : flag = option.spelling
  · have loads : loaded? (apart flag file) = some file := if_pos same
    rw [List.filterMap_cons_some loads, ← later]
    exact List.filterMap_cons_some (if_pos same)
  · have passes : loaded? (apart flag file) = none := if_neg same
    rw [List.filterMap_cons_none passes, ← later]
    exact List.filterMap_cons_none (if_neg same)

theorem included_eq_nil (absent : option.spelling ∉ rest) (first : String) :
    Layers.included (first :: rest) = [] := by
  induction rest generalizing first with
  | nil => rfl
  | cons argument rest ih =>
    rcases not_or.mp (mt List.mem_cons.mpr absent) with ⟨apart, later⟩
    rw [included_cons_of_ne (Ne.symm apart)]
    exact ih later argument

/-! ## Both readings side by side -/

/-- What the reader of options and the layers make of arguments that hold some inclusions. -/
structure Reads (found final : Found) (arguments : List String) (named : List Inclusion) :
    Prop where
  binds : final.texts option.variableName = found.texts option.variableName ++ named.map bound
  loads : ∀ first, Layers.included (first :: arguments) = named.filterMap loaded?

section Steps

variable {found settled final : Found} {named : List Inclusion}

theorem Reads.congr (same : settled.lookup option.variableName = found.lookup option.variableName)
    (later : Reads settled final rest named) : Reads found final rest named := by
  refine ⟨?_, later.loads⟩
  rw [later.binds, Found.texts, Found.texts, same]

theorem Reads.skip (other : argument ≠ option.spelling) (later : Reads found final rest named) :
    Reads found final (argument :: rest) named :=
  ⟨later.binds, fun first => (included_cons_of_ne other first).trans (later.loads argument)⟩

theorem Reads.add {text : String} {inclusion : Inclusion} (same : inclusion.bound = text)
    (later : Reads (found.add option text) final rest named) :
    final.texts option.variableName =
      found.texts option.variableName ++ (inclusion :: named).map bound := by
  have several : option.takes = .items .text := rfl
  rw [later.binds, Found.texts_add_self several, List.append_assoc, List.map_cons, same]
  rfl

theorem Reads.joined {file : String} (other : argument ≠ option.spelling)
    (later : Reads (found.add option file) final rest named) :
    Reads found final (argument :: rest) (joined file :: named) := by
  refine ⟨later.add rfl, fun first => ?_⟩
  rw [included_cons_of_ne other]
  exact later.loads argument

theorem Reads.apart {flag file : String} (other : file ≠ option.spelling)
    (later : Reads (found.add option (inSmallLetters file)) final rest named) :
    Reads found final (flag :: file :: rest) (apart flag file :: named) := by
  refine ⟨later.add rfl, fun first => included_cons first flag file ?_⟩
  rw [included_cons_of_ne other]
  exact later.loads file

/-- With the command the reading ends, and nothing behind it is read here. -/
theorem Reads.command {inner : Found} (other : argument ≠ option.spelling)
    (absent : inner.lookup option.variableName = none) (unwritten : option.spelling ∉ rest) :
    Reads found (found ++ inner) (argument :: rest) [] := by
  refine Reads.skip other ⟨?_, included_eq_nil unwritten⟩
  rw [Found.texts_append absent]
  exact (List.append_nil _).symm

end Steps

/-- What the two readers wait for: nothing, the file of an inclusion, or a value that only
the reader of options waits for. -/
inductive Waits : Option String → Option OptionForm → Prop
  | idle : Waits none none
  | file (flag : String) : Waits (some flag) (some option)
  | value {form : OptionForm} : Foreign form → Waits none (some form)

variable {command : String → List String → Option Arguments.Outcome} {found final : Found}
  {flag chosen : Option String} {waiting : Option OptionForm} {arguments : List String}

/-- An option that gets no value is settled without one, which the option for files to
include never is. -/
theorem Waits.of_settled? {settled : Found} (waits : Waits flag waiting)
    (settles : settled? found waiting = some settled) :
    flag = none ∧ settled.lookup option.variableName = found.lookup option.variableName := by
  cases waits with
  | idle => exact ⟨rfl, lookup_of_settled? settles fun _ none => by cases none⟩
  | file flag => cases settles
  | value foreign =>
    refine ⟨rfl, lookup_of_settled? settles fun form same => ?_⟩
    cases same
    exact foreign.1

/-- Another option leaves the files as they are, also if it waits. -/
theorem Waits.of_taken? {form : OptionForm} {next : Found × Option OptionForm}
    (foreign : Foreign form) (takes : taken? found form given = some next) :
    Waits none next.2 ∧ next.1.lookup option.variableName = found.lookup option.variableName := by
  rcases lookup_of_taken? takes foreign.1 with ⟨untouched, onlyForm⟩
  refine ⟨?_, untouched⟩
  rcases next with ⟨_, _ | form⟩
  · exact Waits.idle
  · cases onlyForm form rfl
    exact Waits.value foreign

theorem ne_option_of_token {t : Token} (is : token options (inSmallLetters argument) after = t)
    (other : t ≠ .option option none) : argument ≠ option.spelling := by
  rintro rfl
  rw [inSmallLetters_option, token_option] at is
  exact other is.symm

/-- What is no option for files to include is passed over by both readers. -/
theorem Reads.pass {t : Token} {named : List String} {settled : Found}
    (is : token options (inSmallLetters argument) after = t)
    (other : ∀ given, t ≠ .option option given)
    (same : settled.lookup option.variableName = found.lookup option.variableName)
    (later : Reads settled final rest (all none named)) :
    Reads found final (argument :: rest) (all none (argument :: named)) := by
  rw [all_cons_of_ne is other]
  exact Reads.skip (ne_option_of_token is (other none)) (Reads.congr same later)

/-- What is bound and what is loaded, from some place of a command line onwards, if the
command names nothing to include. -/
theorem reads_of_read
    (silent : ∀ name after inner chosen, command name after = some (.read inner chosen) →
      inner.lookup option.variableName = none ∧ option.spelling ∉ after)
    (waits : Waits flag waiting)
    (read : readTokens command false found waiting
      (tokens options (arguments.map inSmallLetters)) = .read final chosen) :
    Reads found final (flag.toList ++ arguments) (all flag (arguments.take
      (front waiting.isSome (tokens options (arguments.map inSmallLetters))))) := by
  induction arguments generalizing flag found waiting with
  | nil =>
    rw [List.map_nil, tokens, readTokens] at read
    split at read
    · next settled settles =>
      cases read
      rcases waits.of_settled? settles with ⟨rfl, same⟩
      exact Reads.congr same ⟨(List.append_nil _).symm, fun _ => rfl⟩
    · cases read
  | cons argument rest ih =>
    rw [List.map_cons, tokens] at read ⊢
    rcases readTokens_cons_eq_read read with ⟨form, text, after, rfl, is, later⟩ |
      ⟨text, after, inner, rfl, is, comes, rfl⟩ |
      ⟨form, given, settled, next, is, settles, takes, later⟩
    · -- The argument is the value that an option waits for.
      rcases eq_of_token_eq_value is with ⟨rfl, -⟩
      have onward := ih Waits.idle later
      rw [is, Option.isSome_some, front, List.take_succ_cons]
      cases waits with
      | file flag => exact onward.apart (ne_option_of_token is (by simp))
      | value foreign => exact onward.pass is (by simp) (Found.lookup_add_of_ne foreign.1 _)
    · -- The argument is the command.
      rcases eq_of_token_eq_value is with ⟨-, rfl⟩
      rcases silent _ _ _ _ comes with ⟨absent, unnamed⟩
      have unwritten : option.spelling ∉ rest := by
        intro listed
        have lowered : inSmallLetters option.spelling ∈ rest.map inSmallLetters :=
          List.mem_map_of_mem listed
        exact unnamed (inSmallLetters_option ▸ lowered)
      cases waits
      rw [is, Option.isSome_none, front, List.take_zero]
      exact Reads.command (ne_option_of_token is (by simp)) absent unwritten
    · -- The argument is an option.
      rcases waits.of_settled? settles with ⟨rfl, same⟩
      refine Reads.congr same ?_
      rw [is, front, ← isSome_of_taken? takes, List.take_succ_cons]
      rcases eq_option_or_foreign form (token_eq_option is).1 with rfl | foreign
      · cases given with
        | none =>
          cases takes
          rw [all_cons_alone (token_eq_option_iff.mp is)]
          exact ih (Waits.file argument) later
        | some file =>
          cases takes
          rw [all_cons_joined is]
          exact (ih Waits.idle later).joined (ne_option_of_token is (by simp))
      · have other : ∀ written, Token.option form given ≠ .option option written := by
          rintro written same
          cases same
          exact foreign.1 rfl
        rcases Waits.of_taken? foreign takes with ⟨onward, untouched⟩
        exact (ih onward later).pass is other untouched

/-! ## Whole command lines -/

/-- The arguments in front of the command. -/
def beforeCommand (arguments : List String) : List String :=
  arguments.take (front false (tokens options (arguments.map inSmallLetters)))

/-- The inclusions in a command line that begins with the program's name. -/
def named (arguments : List String) : List Inclusion :=
  all none (beforeCommand (arguments.drop 1))

theorem token_checkOptions :
    token (commandOptions { name := Outline.checkName } Outline.overrides) option.spelling after =
      .unknown := by
  rfl

/-- The check command has no option for files to include, and none of its own sets the
same variable. -/
theorem silent_check {after : List String} {inner : Found}
    (read : readTokens (fun _ _ => none) false [] none
      (tokens (commandOptions { name := Outline.checkName } Outline.overrides) after) =
        .read inner chosen) :
    inner.lookup option.variableName = none ∧ option.spelling ∉ after := by
  have foreign : ∀ form ∈ commandOptions { name := Outline.checkName } Outline.overrides,
      form.variableName ≠ option.variableName := by
    decide +kernel
  rcases lookup_of_read foreign (fun _ none => by cases none) read with ⟨same, known⟩
  refine ⟨same, fun listed => ?_⟩
  rcases known _ listed with ⟨_, understood⟩
  exact understood token_checkOptions

theorem mem_commands {launch : Launch} {entry : SettingName × Outline}
    (listed : entry ∈ launch.commands) :
    entry = ({ name := Outline.checkName }, Outline.overrides) := by
  unfold Launch.commands at listed
  split at listed
  · exact List.mem_singleton.mp listed
  · cases listed

theorem reads_of_outcome {launch : Launch} {arguments : List String}
    (accepted : outcome Outline.settings launch.commands arguments = .read found chosen) :
    Reads [] found arguments (all none (beforeCommand arguments)) := by
  refine reads_of_read ?_ Waits.idle accepted
  intro name after inner which comes
  split at comes
  · cases comes
  split at comes
  · cases comes
  next setting outline met =>
  cases mem_commands (List.mem_of_find?_eq_some met)
  dsimp only at comes
  split at comes
  · cases comes
  split at comes
  · next read =>
    cases comes
    exact silent_check read
  · next ends => exact absurd (Option.some.inj comes) (ends _ _)

theorem loaded?_eq_some_bound_iff {inclusion : Inclusion} :
    inclusion.loaded? = some inclusion.bound ↔
      ∃ file, inclusion = apart option.spelling file ∧ inSmallLetters file = file := by
  constructor
  · intro same
    cases inclusion with
    | apart flag file =>
      rcases Option.ite_none_right_eq_some.mp same with ⟨rfl, kept⟩
      exact ⟨file, rfl, (Option.some.inj kept).symm⟩
    | joined file => cases same
  · rintro ⟨file, rfl, kept⟩
    rw [bound, kept, loaded?, if_pos rfl]

/-- On every command line that is read, the option for files to include is given the
files of the inclusions in front of the command, and the layers are those of the inclusions
that write the option to the letter and apart.  So both agree exactly if each inclusion
does, with a file that is left as it is. -/
theorem included_eq_bound_iff {launch : Launch}
    (accepted : outcome Outline.settings launch.commands (launch.arguments.drop 1) =
      .read found chosen) :
    found.texts option.variableName = (named launch.arguments).map bound ∧
      Layers.included launch.arguments = (named launch.arguments).filterMap loaded? ∧
      (Layers.included launch.arguments = found.texts option.variableName ↔
        ∀ inclusion ∈ named launch.arguments, ∃ file,
          inclusion = apart option.spelling file ∧ inSmallLetters file = file) := by
  have reads := reads_of_outcome accepted
  have binds : found.texts option.variableName = (named launch.arguments).map bound := reads.binds
  have loads : Layers.included launch.arguments = (named launch.arguments).filterMap loaded? := by
    rw [named, ← reads.loads Host.programName]
    cases launch.arguments <;> rfl
  refine ⟨binds, loads, ?_⟩
  rw [binds, loads, List.filterMap_eq_map_iff_forall_eq_some]
  simp only [loaded?_eq_some_bound_iff]

/-- A command line with an inclusion in each spelling. -/
def spellings : Launch where
  host := { directory := ⟨.single, ["work"]⟩, home := ⟨.single, ["home"]⟩ }
  disk := { files := [] }
  arguments := ["strictify", "--include", "a.yaml", "--include=b.yaml"]

theorem outcome_spellings :
    outcome Outline.settings spellings.commands (spellings.arguments.drop 1) =
      .read [("include", .items .text ["a.yaml", "b.yaml"])] none := by
  have small : (spellings.arguments.drop 1).map inSmallLetters =
      ["--include", "a.yaml", "--include=b.yaml"] := by decide +kernel
  have joined : token options "--include=b.yaml" [] = .option option (some "b.yaml") :=
    token_joined (by decide +kernel)
  have alone : token options "--include" ["a.yaml", "--include=b.yaml"] = .option option none :=
    token_option
  have apart : token options "a.yaml" ["--include=b.yaml"] = .value "a.yaml" ["--include=b.yaml"] :=
    rfl
  rw [outcome, small]
  simp only [tokens, alone, apart, joined]
  rfl

theorem included_eq_bound_iff_spellings :
    outcome Outline.settings spellings.commands (spellings.arguments.drop 1) =
        .read [("include", .items .text ["a.yaml", "b.yaml"])] none ∧
      ["a.yaml", "b.yaml"] = (named spellings.arguments).map bound ∧
      Layers.included spellings.arguments = (named spellings.arguments).filterMap loaded? := by
  rcases included_eq_bound_iff outcome_spellings with ⟨binds, loads, -⟩
  exact ⟨outcome_spellings, binds, loads⟩

/-- The file behind an equals sign is given to the option and becomes no layer. -/
theorem included_spellings :
    outcome Outline.settings spellings.commands (spellings.arguments.drop 1) =
        .read [("include", .items .text ["a.yaml", "b.yaml"])] none ∧
      Layers.included spellings.arguments = ["a.yaml"] :=
  ⟨outcome_spellings, by decide +kernel⟩

end Inclusion

end Ratchet
