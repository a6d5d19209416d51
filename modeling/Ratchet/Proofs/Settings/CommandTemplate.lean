import Ratchet.Proofs.Change.Commands
import Ratchet.Proofs.Settings.Field

namespace Ratchet

/-!
# Command templates with references

A command template is filled twice.  Its references are replaced when the settings
are loaded, and its fields are filled, with quoted values, when a question is
asked.  By then what was put in cannot be told from what was written.  A text
without braces that was put in is in every command as it is.  One with braces is
read as part of the template.
-/

namespace CommandTemplate

open Reference (IsName Expands)
open Template (Fragment fillParts)

/-- The fields that the questions to version control have values for. -/
def slotNames : List String := ["ref", "target", "base", "head"]

/-- A part of a command template: plain text, a reference, or a field. -/
inductive Part where
  | text (cs : List Char) (plain : '{' ∉ cs ∧ '}' ∉ cs)
  | reference (name : List Char) (isName : IsName name)
  | slot (name : String) (listed : name ∈ slotNames)

/-- True of texts in which a template has no fields. -/
def Braceless (s : String) : Prop := '{' ∉ s.toList ∧ '}' ∉ s.toList

instance (s : String) : Decidable (Braceless s) := inferInstanceAs (Decidable (_ ∧ _))

section Values

variable (value : String → Option String) (values : List (String × String))

/-- A part as it is once the references that have a value are replaced. -/
def Part.fragment : Part → Fragment
  | text cs _ => .text cs
  | reference name _ =>
    match value (String.ofList name) with
    | some s => .text s.toList
    | none => .field name
  | slot name _ => .field name.toList

/-- A template in which the references that have a value are replaced. -/
def replaced (parts : List Part) : List Char :=
  (parts.map (Part.fragment value)).flatMap Fragment.written

/-- The texts that are put in for the references of a template. -/
def putIn (parts : List Part) : List String :=
  parts.filterMap fun part =>
    match part with
    | .reference name _ => value (String.ofList name)
    | _ => none

/-- What a part stands for in a command: a reference for its value, as it is, and a
field for its value as one word of the shell. -/
def Part.meant? : Part → Option (List Char)
  | text cs _ => some cs
  | reference name _ => (value (String.ofList name)).map String.toList
  | slot name _ => (values.lookup name).map fun s => (Text.asWord s).toList

/-- The command that a template stands for, if everything in it has a value. -/
def meant? : List Part → Option (List Char)
  | [] => some []
  | part :: rest => do return (← part.meant? value values) ++ (← meant? rest)

end Values

/-- A template as written. -/
def written (parts : List Part) : List Char := replaced (fun _ => none) parts

/-- True if every command made from a template is the one that the template stands
for. -/
def Verbatim (setup : Git.Setup) (name : String) (value : String → Option String)
    (parts : List Part) : Prop :=
  ∀ values cs, meant? value values parts = some cs →
    setup.command name values = .ok (String.ofList cs)

variable {value : String → Option String} {values : List (String × String)} {parts : List Part}

theorem meant?_cons_eq_some_iff {part : Part} {cs : List Char} :
    meant? value values (part :: parts) = some cs ↔ ∃ first rest,
      part.meant? value values = some first ∧ meant? value values parts = some rest ∧
        cs = first ++ rest := by
  rw [meant?]
  cases part.meant? value values with
  | none => simp
  | some first => cases meant? value values parts <;> simp [eq_comm]

theorem isName_of_slot {name : String} (listed : name ∈ slotNames) : IsName name.toList := by
  simp only [slotNames, List.mem_cons, List.not_mem_nil, or_false] at listed
  rcases listed with rfl | rfl | rfl | rfl <;>
    exact ⟨by decide, List.all_eq_true.mp (by decide)⟩

theorem slotNames_subset : slotNames ⊆ fieldNames := by decide

/-! ## Replacing references -/

/-- The references of a template are replaced each on its own, and its fields are
left. -/
theorem eq_replaced_of_expands {resolve : String → Except Reference.Failure (Option String)}
    (slots : ∀ name ∈ slotNames, resolve name = .ok none) {out : List Char}
    (expands : Expands resolve (written parts) out) :
    out = replaced (fun name => (resolve name).toOption.join) parts := by
  -- No part reaches into the next one: text opens no name, and every name is closed.
  induction parts generalizing out with
  | nil =>
    cases expands
    rfl
  | cons part rest ih =>
    have split (value : String → Option String) :
        replaced value (part :: rest) = (part.fragment value).written ++ replaced value rest := rfl
    rw [written, split] at expands
    rw [split]
    cases part with
    | text cs plain =>
      obtain ⟨tail, rfl, behind⟩ := expands.exists_of_append plain.1
      rw [ih behind]
      rfl
    | reference name isName =>
      rw [Part.fragment, Fragment.written, List.cons_append, List.append_assoc] at expands
      obtain ⟨text, tail, leads, behind, rfl⟩ := expands.exists_of_reference isName
      rw [ih behind, Part.fragment, leads]
      cases text <;> rfl
    | slot name listed =>
      rw [Part.fragment, Fragment.written, List.cons_append, List.append_assoc] at expands
      obtain ⟨text, tail, leads, behind, rfl⟩ := expands.exists_of_reference (isName_of_slot listed)
      rw [String.ofList_toList, slots name listed] at leads
      cases leads
      rw [ih behind]
      rfl

/-! ## Filling fields -/

theorem proper_fragment {part : Part} (plain : ∀ s ∈ putIn value [part], Braceless s) :
    (part.fragment value).Proper := by
  cases part with
  | text cs unbraced => exact unbraced
  | slot name listed => exact Reference.proper_of_isName (isName_of_slot listed)
  | reference name isName =>
    rw [Part.fragment]
    cases known : value (String.ofList name) with
    | none => exact Reference.proper_of_isName isName
    | some s => exact plain s (by simp [putIn, known])

theorem filled_slot {name : String} (listed : name ∈ slotNames) {s : String}
    (known : values.lookup name = some s)
    (inner : List Char → Except Template.Error (List Char)) :
    (Fragment.field name.toList).filled inner (Template.subject (Template.ofTexts
      (values.map fun entry => (entry.1, Text.asWord entry.2)))) = .ok (Text.asWord s).toList := by
  have plain : ∀ name ∈ slotNames,
      Template.Field.plainName? ⟨name.toList, none, []⟩ = some name := by
    decide +kernel
  rw [Fragment.filled]
  refine Template.piece_of_plain ?_ inner
  rw [Template.Piece.plain?, plain name listed, Option.bind_some, Template.lookup_map, known]
  rfl

/-- Where what was put in has no braces, the parts come to what they stand for. -/
theorem fillParts_fragment {cs : List Char} (meant : meant? value values parts = some cs)
    (inner : List Char → Except Template.Error (List Char)) :
    fillParts inner (Template.subject (Template.ofTexts
        (values.map fun entry => (entry.1, Text.asWord entry.2))))
      (parts.map (Part.fragment value)) = .ok cs := by
  induction parts generalizing cs with
  | nil =>
    cases meant
    rfl
  | cons part rest ih =>
    obtain ⟨first, others, here, behind, rfl⟩ := meant?_cons_eq_some_iff.mp meant
    have fills : (part.fragment value).filled inner (Template.subject (Template.ofTexts
        (values.map fun entry => (entry.1, Text.asWord entry.2)))) = .ok first := by
      cases part with
      | text cs plain =>
        cases here
        rfl
      | reference name isName =>
        obtain ⟨s, known, rfl⟩ := Option.map_eq_some_iff.mp here
        rw [Part.fragment, known]
        rfl
      | slot name listed =>
        obtain ⟨s, known, rfl⟩ := Option.map_eq_some_iff.mp here
        exact filled_slot listed known inner
    rw [List.map_cons, fillParts, fills, ih behind]
    rfl

variable {setup : Git.Setup} {name template : String}

/-- What was put in stays as it is if it has no braces. -/
theorem verbatim_of_braceless (known : setup.template? name = some template)
    (form : template.toList = replaced value parts)
    (plain : ∀ s ∈ putIn value parts, Braceless s) : Verbatim setup name value parts := by
  intro values cs meant
  have proper : ∀ fragment ∈ parts.map (Part.fragment value), fragment.Proper := by
    rw [List.forall_mem_map]
    intro part inside
    refine proper_fragment fun s put => plain s ?_
    exact (List.singleton_sublist.mpr inside).filterMap _ |>.subset put
  rw [setup.command_eq known, Template.fill_written form proper, fillParts_fragment meant]
  rfl

theorem replaced_of_meant {cs : List Char} (meant : meant? value [] parts = some cs) :
    replaced value parts = cs := by
  induction parts generalizing cs with
  | nil =>
    cases meant
    rfl
  | cons part rest ih =>
    obtain ⟨first, others, here, behind, rfl⟩ := meant?_cons_eq_some_iff.mp meant
    have same : (part.fragment value).written = first := by
      cases part with
      | text cs plain => exact Option.some.inj here
      | reference name isName =>
        obtain ⟨s, known, rfl⟩ := Option.map_eq_some_iff.mp here
        rw [Part.fragment, known]
        rfl
      | slot name listed => cases here
    rw [← same, ← ih behind]
    rfl

theorem subset_replaced {s : String} (put : s ∈ putIn value parts) :
    s.toList ⊆ replaced value parts := by
  obtain ⟨part, inside, here⟩ := List.mem_filterMap.mp put
  cases part with
  | text | slot => cases here
  | reference name isName =>
    have known : value (String.ofList name) = some s := here
    have same : (Part.reference name isName).fragment value = .text s.toList := by
      rw [Part.fragment, known]
    have listed : Fragment.text s.toList ∈ parts.map (Part.fragment value) :=
      List.mem_map.mpr ⟨.reference name isName, inside, same⟩
    exact fun c there => List.mem_flatMap.mpr ⟨_, listed, there⟩

/-- A template that stands for one command, whatever is asked, comes to it exactly
if nothing that was put in has braces. -/
theorem verbatim_iff (known : setup.template? name = some template)
    (form : template.toList = replaced value parts) {cs : List Char}
    (same : ∀ values, meant? value values parts = some cs) :
    Verbatim setup name value parts ↔ ∀ s ∈ putIn value parts, Braceless s := by
  refine ⟨fun verbatim s put => ?_, verbatim_of_braceless known form⟩
  have whole := replaced_of_meant (same [])
  have itself : template = String.ofList cs := by
    rw [← whole, ← form, String.ofList_toList]
  have fills := verbatim [] cs (same [])
  rw [setup.command_eq known, ← itself] at fills
  -- Where no field has a value, no text with braces comes to itself.
  have plain : Braceless template := by
    refine Template.fill_nil_eq_self_iff.mp ?_
    cases filled : Template.fill [] template with
    | error fault =>
      rw [List.map_nil, Template.ofTexts, List.map_nil, filled] at fills
      cases fills
    | ok command =>
      rw [List.map_nil, Template.ofTexts, List.map_nil, filled] at fills
      exact congrArg Except.ok (Except.ok.inj fills)
  have parts := subset_replaced put
  rw [← form] at parts
  exact ⟨fun brace => plain.1 (parts brace), fun brace => plain.2 (parts brace)⟩

end CommandTemplate

/-! ## Templates among the settings -/

/-- The template that a configuration has for a question. -/
def Config.gitTemplate? (config : Config) (name : String) : Option String :=
  (config.commands.lookup "git").bind (List.lookup name)

theorem Config.template?_gitSetup {config : Config} {name template : String}
    (listed : config.gitTemplate? name = some template) :
    config.gitSetup.template? name = some template := by
  obtain ⟨templates, git, there⟩ := Option.bind_eq_some_iff.mp listed
  rw [Git.Setup.template?, gitSetup, git, Option.getD_some, there]
  rfl

namespace Tree

variable {α : Type} {name : String}

/-- What a table has under a name is at one place in all tables of its shape. -/
theorem exists_entry (form : α → Tree) {entries : List (String × α)} {a : α}
    (listed : entries.lookup name = some a) :
    ∃ i, ∀ others : List (String × α),
      shapesIn (others.map fun (key, b) => (key, form b)) =
        shapesIn (entries.map fun (key, b) => (key, form b)) →
      ∃ b, others.lookup name = some b ∧ (form b).shape = (form a).shape ∧
        at? [i] (.table (others.map fun (key, b) => (key, form b))) = some (form b) := by
  have there := (lookup_eq name _).symm.trans (Template.lookup_map form name entries)
  rw [listed] at there
  obtain ⟨⟨i, part⟩, found, same⟩ := Option.map_eq_some_iff.mp there
  cases same
  refine ⟨i, fun others alike => ?_⟩
  have both := congrArg (fieldAt? name) alike
  rw [fieldAt?_shapesIn, fieldAt?_shapesIn, found] at both
  obtain ⟨⟨j, other⟩, elsewhere, same⟩ := Option.map_eq_some_iff.mp both
  obtain ⟨rfl, alikePart⟩ := Prod.mk.inj same
  have known := (Template.lookup_map form name others).symm.trans (lookup_eq name _)
  rw [elsewhere] at known
  obtain ⟨b, under, rfl⟩ := Option.map_eq_some_iff.mp known
  exact ⟨b, under, alikePart, by rw [at?_cons, children, getElem?_of_fieldAt? elsewhere]; rfl⟩

/-- The template of a question is at one place in all settings of one shape, behind
everything else in the configuration. -/
theorem exists_gitTemplate {written : Settings} {template : String}
    (listed : written.config.gitTemplate? name = some template) (mayCheck : Bool) :
    ∃ i j, ∀ settings : Settings,
      (ofSettings mayCheck settings).shape = (ofSettings mayCheck written).shape →
      ∃ s, settings.config.gitTemplate? name = some s ∧
        (ofSettings mayCheck settings).at? [0, 5, i, j] = some (.text s) := by
  obtain ⟨templates, git, there⟩ := Option.bind_eq_some_iff.mp listed
  obtain ⟨i, outer⟩ := exists_entry
    (fun templates => .table (templates.map fun entry => (entry.1, .text entry.2))) git
  obtain ⟨j, inner⟩ := exists_entry .text there
  refine ⟨i, j, fun settings alike => ?_⟩
  have commands := congrArg (at? [0, 5]) alike
  rw [at?_shape, at?_shape] at commands
  obtain ⟨others, git, alikeTemplates, atGit⟩ :=
    outer settings.config.commands (table.inj (Option.some.inj commands))
  obtain ⟨s, there, -, atName⟩ := inner others (table.inj alikeTemplates)
  refine ⟨s, by rw [Config.gitTemplate?, git]; exact there, ?_⟩
  have place : [0, 5, i, j] = [0, 5] ++ ([i] ++ [j]) := rfl
  have config : at? [0, 5] (ofSettings mayCheck settings) = some (.table _) := rfl
  rw [place, at?_append, config, Option.bind_some, at?_append, atGit]
  exact atName

/-- The text that a reference with some name is replaced by, if any. -/
def leadsTo? (host : Host) (t : Tree) (name : String) : Option String :=
  (Reference.resolve? host t name).toOption.join

/-- True of the names of what stands before the commands in the configuration. -/
def Earlier (name : String) : Prop :=
  ∃ field rest, Text.pieces '.' name = "config" :: field :: rest ∧
    field ∉ ["commands", "__dict__"]

/-- An earlier name leads to what does not depend on the commands. -/
theorem used?_of_earlier (earlier : Earlier name) (mayCheck : Bool) (settings : Settings)
    {address : List Nat} (used : (ofSettings mayCheck settings).used? name = some address) :
    ∃ k rest, address = 0 :: k :: rest ∧ k < 5 := by
  obtain ⟨field, rest, names, apart⟩ := earlier
  have own : ownNames? name = some ("config" :: field :: rest) := by
    rw [ownNames?, names]
    rfl
  obtain ⟨fields, config, keys⟩ : ∃ fields, ofConfig settings.config = .section "Config" fields ∧
      fields.map Prod.fst = ["logger", "git", "compiler", "log_level", "log_root", "commands"] :=
    ⟨_, rfl, rfl⟩
  have whole : follow ("config" :: field :: rest) (ofSettings mayCheck settings) =
      (0 :: (follow (field :: rest) (.section "Config" fields)).1,
        (follow (field :: rest) (.section "Config" fields)).2) := by
    rw [← config]
    rfl
  rw [used?, own, Option.bind_some, whole, follow] at used
  cases found : fieldAt? field fields with
  | none =>
    have there : at? [0] (ofSettings mayCheck settings) = some (.section "Config" fields) :=
      congrArg some config
    have notTable : field ≠ "__dict__" := fun same => apart (by simp [same])
    rw [found, decisive?, there] at used
    dsimp only at used
    rw [if_neg notTable] at used
    cases used
  | some place =>
    rw [found] at used
    refine ⟨place.1, _, eq_of_decisive? used, ?_⟩
    -- The commands are the last field.
    have key := key_of_fieldAt? found
    rw [keys] at key
    by_contra behind
    obtain ⟨within, -⟩ := List.getElem?_eq_some_iff.mp key
    have last : place.1 = 5 :=
      Nat.le_antisymm (Nat.lt_succ_iff.mp within) (Nat.le_of_not_lt behind)
    rw [last] at key
    exact apart (by simp [← Option.some.inj key])

variable {host : Host} {written settings : Settings} {mayCheck : Bool} {mid : Tree} {i j : Nat}

/-- An earlier name leads to the same when the commands are visited and in the
end. -/
theorem Stage.resolve?_of_earlier (earlier : Earlier name)
    (listed : [0, 5, i, j] ∈ (ofSettings mayCheck written).addresses)
    (stage : Stage host (ofSettings mayCheck written) (ofSettings mayCheck settings)
      [0, 5, i, j] mid)
    (alike : (ofSettings mayCheck settings).shape = (ofSettings mayCheck written).shape) :
    Reference.resolve? host mid name =
      Reference.resolve? host (ofSettings mayCheck settings) name := by
  have same := alike.trans stage.alike.symm
  refine (resolve?_congr same fun address used => ?_).symm
  obtain ⟨k, rest, rfl, before⟩ := used?_of_earlier earlier mayCheck settings used
  refine at?_congr same fun place asked inside => (stage.finished place ?_).symm
  refine before_of_lt listed (addresses_congr alike ▸ asked) ?_
  obtain ⟨more, rfl⟩ := inside
  exact List.cons_lt_cons_iff.mpr (Or.inr ⟨rfl, List.cons_lt_cons_iff.mpr (Or.inl before)⟩)

end Tree

namespace Launch

open CommandTemplate (replaced putIn meant? Braceless Verbatim)

variable {launch : Launch} {written settings : Settings} {name template : String}
  {parts : List CommandTemplate.Part}

/-- A template of plain text, references and fields, as it is loaded and filled.
When its turn comes, each reference in it is replaced by the text that it leads to
then.  For everything that stands before the commands this is what it leads to in
the end.  If none of these texts has braces, each command made from the template has
them in the place of the references, as they are, and the quoted values of the
question in the place of the fields.  For a template without fields this is so only
then. -/
theorem load_command (read : launch.asWritten = .ok (.ok written))
    (loaded : launch.load = .ok settings)
    (listed : written.config.gitTemplate? name = some template)
    (form : template.toList = CommandTemplate.written parts) :
    ∃ value : String → Option String,
      (∃ address mid,
        Tree.at? address (.ofSettings launch.mayCheck written) = some (.text template) ∧
        Tree.Stage launch.host (.ofSettings launch.mayCheck written)
          (.ofSettings launch.mayCheck settings) address mid ∧
        value = mid.leadsTo? launch.host) ∧
      (∀ other, Tree.Earlier other →
        value other = (Tree.ofSettings launch.mayCheck settings).leadsTo? launch.host other) ∧
      settings.config.gitTemplate? name = some (String.ofList (replaced value parts)) ∧
      ((∀ s ∈ putIn value parts, Braceless s) →
        Verbatim settings.config.gitSetup name value parts) ∧
      ∀ cs, (∀ values, meant? value values parts = some cs) →
        (Verbatim settings.config.gitSetup name value parts ↔
          ∀ s ∈ putIn value parts, Braceless s) := by
  obtain ⟨_, same, done⟩ := load_eq_ok_iff.mp loaded
  cases read.symm.trans same
  have expands := expandAll_of_substituted done
  have alike := Tree.shape_expandAll expands
  obtain ⟨i, j, place⟩ := Tree.exists_gitTemplate listed launch.mayCheck
  obtain ⟨_, own, start⟩ := place written rfl
  cases listed.symm.trans own
  obtain ⟨s, new, there⟩ := place settings alike
  have visited := Tree.mem_addresses_iff.mpr ⟨_, start, rfl⟩
  obtain ⟨mid, stage⟩ := Tree.exists_stage expands visited
  have steps := stage.expands start there
  rw [form] at steps
  have become : s.toList = replaced (mid.leadsTo? launch.host) parts := by
    refine CommandTemplate.eq_replaced_of_expands (fun name listed => ?_) steps
    refine resolve?_of_field launch.host stage.alike ?_
    exact CommandTemplate.slotNames_subset listed
  have known := Config.template?_gitSetup new
  refine ⟨mid.leadsTo? launch.host, ⟨_, mid, start, stage, rfl⟩, fun other earlier => ?_, ?_,
    CommandTemplate.verbatim_of_braceless known become,
    fun cs => CommandTemplate.verbatim_iff known become⟩
  · rw [Tree.leadsTo?, Tree.leadsTo?, stage.resolve?_of_earlier earlier visited alike]
  · rw [new, ← become, String.ofList_toList]

/-- Settings with a template that names the directory. -/
def forkPointIn (directory : String) : Launch :=
  ofConfig [
    ("git", .record [("workdir", .text directory)]),
    ("commands", .record [("git", .record [("fork_point",
      .text "git -C \x7bconfig.git.workdir\x7d merge-base \x7btarget\x7d \x7bref\x7d")])])]

/-- A directory whose name has no braces. -/
theorem load_command_directory :
    let launch := forkPointIn "/srv/app"
    ∃ settings, launch.load = .ok settings ∧
      settings.config.gitSetup.command "fork_point" [("ref", "HEAD"), ("target", "my main")] =
        .ok "git -C /srv/app merge-base 'my main' HEAD" := by
  intro launch
  let parts : List CommandTemplate.Part := [
    .text "git -C ".toList (by decide),
    .reference "config.git.workdir".toList ⟨by decide, List.all_eq_true.mp (by decide)⟩,
    .text " merge-base ".toList (by decide), .slot "target" (by decide),
    .text " ".toList (by decide), .slot "ref" (by decide)]
  have good : ∃ written ∈ launch.written?, ∃ template ∈ written.config.gitTemplate? "fork_point",
      template.toList = CommandTemplate.written parts := by decide +kernel
  have done : ∃ settings ∈ launch.load.toOption,
      (Tree.ofSettings launch.mayCheck settings).leadsTo? launch.host "config.git.workdir" =
        some "/srv/app" := by decide +kernel
  obtain ⟨written, read, template, listed, form⟩ := good
  obtain ⟨settings, loaded, leads⟩ := done
  rw [mem_written?_iff] at read
  rw [Include.mem_toOption_iff] at loaded
  obtain ⟨value, -, same, -, verbatim, -⟩ := load_command read loaded listed form
  have known : value "config.git.workdir" = some "/srv/app" := by
    rw [same _ ⟨"git", ["workdir"], by decide +kernel, by decide⟩, leads]
  have put : CommandTemplate.putIn value parts = ["/srv/app"] := by
    simp [CommandTemplate.putIn, parts, known]
  have plain : ∀ s ∈ CommandTemplate.putIn value parts, CommandTemplate.Braceless s := by
    rw [put]
    decide
  have meant : CommandTemplate.meant? value [("ref", "HEAD"), ("target", "my main")] parts =
      some "git -C /srv/app merge-base 'my main' HEAD".toList := by
    simp only [CommandTemplate.meant?, CommandTemplate.Part.meant?, parts, String.ofList_toList,
      known]
    decide +kernel
  have command := verbatim plain _ _ meant
  rw [String.ofList_toList] at command
  exact ⟨settings, loaded, command⟩

/-- A directory with a field of the template in its name, which is filled. -/
theorem load_command_braces :
    let launch := forkPointIn "/srv/\x7bref\x7d"
    ∃ settings, launch.load = .ok settings ∧
      (Tree.ofSettings launch.mayCheck settings).leadsTo? launch.host "config.git.workdir" =
        some "/srv/\x7bref\x7d" ∧
      settings.config.gitSetup.command "fork_point" [("ref", "HEAD"), ("target", "main")] =
        .ok "git -C /srv/HEAD merge-base main HEAD" := by
  intro launch
  have done : ∃ settings ∈ launch.load.toOption,
      (Tree.ofSettings launch.mayCheck settings).leadsTo? launch.host "config.git.workdir" =
        some "/srv/\x7bref\x7d" ∧
      settings.config.gitSetup.command "fork_point" [("ref", "HEAD"), ("target", "main")] =
        .ok "git -C /srv/HEAD merge-base main HEAD" := by decide +kernel
  obtain ⟨settings, loaded, leads, command⟩ := done
  exact ⟨settings, Include.mem_toOption_iff.mp loaded, leads, command⟩

end Launch

end Ratchet
