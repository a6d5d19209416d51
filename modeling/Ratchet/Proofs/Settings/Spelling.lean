import Ratchet.Proofs.Settings.Layers
import Ratchet.Proofs.Settings.Substitution
import Ratchet.Proofs.Settings.Written

namespace Ratchet

/-!
# Settings with two names

The log level and each switch of the compiler may be written under either of two
names.  Layers know nothing of this: they are merged name by name, and the
defaults, which are the lowest layer, use the first name of every setting.  So
the first name is always there when the merged settings are read, and it decides.
A layer that uses the second name overrides nothing: for the log level it is
ignored, and for a switch the settings are refused.
-/

open Mapping

/-- A setting that may be written under either of two names. -/
inductive Spelled where
  | level
  | toggle (t : Toggle)
  deriving DecidableEq

namespace Spelled

/-- The sections that a setting is in, from the outermost. -/
def place : Spelled → List String
  | level => ["config"]
  | toggle _ => ["config", "compiler", "options"]

def first : Spelled → String
  | level => "log-level"
  | toggle t => t.flag

def second : Spelled → String
  | level => "log_level"
  | toggle t => t.field

def names (setting : Spelled) : List String := [setting.first, setting.second]

/-- The path of keys that leads to a setting under some name. -/
def path (setting : Spelled) (name : String) : List Scalar :=
  (setting.place ++ [name]).map .text

/-- True of a value that the setting can have.  A level that is a template is left
out here, because what it stands for is not its text. -/
def Valid (value : Value) : Spelled → Prop
  | level => ∃ name, Conversion.text value = .ok name ∧ Reference.mentioned name.toList = []
  | toggle _ => ∃ on, Conversion.boolean value = .ok on

/-- True of configurations in which a setting has a value. -/
def Holds (value : Value) (config : Config) : Spelled → Prop
  | level => Conversion.text value = .ok config.logLevel
  | toggle t => Conversion.boolean value = .ok (config.compiler.options.enabled t)

theorem Valid.isMap_eq_false {setting : Spelled} {value : Value} (valid : setting.Valid value) :
    value.isMap = false := by
  cases value with
  | scalar | list | set => rfl
  | map =>
    cases setting with
    | level =>
      obtain ⟨_, isText, -⟩ := valid
      cases isText
    | toggle =>
      obtain ⟨_, isSwitch⟩ := valid
      cases isSwitch

/-- What is wrong with settings that use the second name of a switch. -/
def unknown (t : Toggle) : Issue :=
  ⟨.extra, [.field "config", .field "compiler", .field "options", .field t.field]⟩

end Spelled

namespace Mapping

/-- Entries with those under some names dropped in a section. -/
def droppedAt (names : List String) : List String → Mapping → Mapping
  | [], entries => dropped names entries
  | key :: place, entries =>
    match field? key entries with
    | some (.map inner) => put (.text key) (.map (droppedAt names place inner)) entries
    | _ => entries

theorem droppedAt_cons {names place : List String} {key : String} {entries inner : Mapping}
    (there : field? key entries = some (.map inner)) :
    droppedAt names (key :: place) entries =
      put (.text key) (.map (droppedAt names place inner)) entries := by
  rw [droppedAt, there]

/-- True of a value that stands at a path in one layer if no later layer settles
the path. -/
def Prevails (path : List Scalar) (value : Value) (layers : List Mapping) : Prop :=
  ∃ lower layer upper, layers = lower ++ layer :: upper ∧ at? path layer = some value ∧
    ∀ later ∈ upper, ¬ Settles path later

theorem prevails_of_getLast? {path : List Scalar} {value : Value} {layers : List Mapping}
    {layer : Mapping} (last : layers.getLast? = some layer) (sets : at? path layer = some value) :
    Prevails path value layers := by
  obtain ⟨lower, rfl⟩ := List.getLast?_eq_some_iff.mp last
  exact ⟨lower, layer, [], rfl, sets, fun _ listed => absurd listed List.not_mem_nil⟩

theorem at?_cons_of_map {key : Scalar} {path : List Scalar} {entries inner : Mapping}
    (found : get? key entries = some (.map inner)) :
    at? (key :: path) entries = at? path inner := by
  rw [at?_cons, found]
  exact Value.at?_map path inner

/-- What no layer has is nowhere after merging. -/
theorem at?_layered_eq_none {layers : List Mapping} {path : List Scalar}
    (keyed : ∀ layer ∈ layers, Value.Keyed (.map layer)) (proper : path ≠ [])
    (unset : ∀ layer ∈ layers, at? path layer = none) : at? path (layered layers) = none := by
  rw [Option.eq_none_iff_forall_ne_some]
  intro value there
  obtain ⟨layer, listed, other, sets⟩ := exists_at?_of_layered keyed proper there
  cases (unset layer listed).symm.trans sets

end Mapping

namespace Layers

variable {host : Host} {disk : Disk}

theorem keyed_layerAt {path : Path} {found : List Mapping}
    (loaded : layerAt host disk path = .ok found) : ∀ layer ∈ found, Value.Keyed (.map layer) := by
  unfold layerAt at loaded
  split at loaded
  · obtain ⟨layer, comes, same⟩ := Reference.bind_eq_ok_iff.mp loaded
    cases same
    exact List.forall_mem_singleton.mpr (Include.keyed_load comes)
  · cases loaded
    exact fun _ listed => absurd listed List.not_mem_nil

/-- No layer repeats a key. -/
theorem keyed_layers {names : List String} {all : List Mapping}
    (loaded : layers host disk names = .ok all) : ∀ layer ∈ all, Value.Keyed (.map layer) := by
  obtain ⟨user, readUser, rest⟩ := Reference.bind_eq_ok_iff.mp loaded
  obtain ⟨named, readNamed, same⟩ := Reference.bind_eq_ok_iff.mp rest
  cases same
  intro layer listed
  rcases List.mem_cons.mp listed with rfl | listed
  · exact keyed_defaults
  rcases List.mem_append.mp listed with inUser | inNamed
  · exact keyed_layerAt readUser layer inUser
  · obtain ⟨found, member, inside⟩ := List.mem_flatten.mp inNamed
    obtain ⟨name, -, comes⟩ := Include.exists_of_mem_mapM readNamed member
    unfold layerNamed at comes
    split at comes
    · exact keyed_layerAt comes layer inside
    · cases comes

end Layers

/-! ## Settings read -/

namespace Launch

open Config Conversion Checked

variable {launch : Launch} {entries : Mapping} {base : Settings} {value other : Value}

/-- The level is read from its first name. -/
theorem readSettings_of_level
    (standing : at? (Spelled.level.path Spelled.level.first) entries = some value)
    (valid : Spelled.level.Valid value)
    (others : launch.readSettings (droppedAt Spelled.level.names Spelled.level.place entries) =
      .ok (.ok base)) :
    ∃ written, launch.readSettings entries = .ok (.ok written) ∧
      Spelled.level.Holds value written.config := by
  obtain ⟨config, there, standing⟩ := at?_cons_cons.mp standing
  obtain ⟨level, isLevel, -⟩ := valid
  rw [Spelled.place, droppedAt_cons there, droppedAt] at others
  obtain ⟨readBase, reads, -⟩ := readSettings_of_config there others
  obtain ⟨own, readOwn, same, sameLog⟩ := read_of_level standing isLevel readBase
  exact ⟨_, reads own readOwn sameLog, isLevel.trans (congrArg Checked.ok same.symm)⟩

variable {t : Toggle}

/-- A switch is read from its first name, and refused if it has its second name
too. -/
theorem readSettings_of_toggle
    (standing : at? ((Spelled.toggle t).path (Spelled.toggle t).first) entries = some value)
    (valid : (Spelled.toggle t).Valid value)
    (others : launch.readSettings
      (droppedAt (Spelled.toggle t).names (Spelled.toggle t).place entries) = .ok (.ok base)) :
    (at? ((Spelled.toggle t).path t.field) entries = none →
      ∃ written, launch.readSettings entries = .ok (.ok written) ∧
        (Spelled.toggle t).Holds value written.config) ∧
    (at? ((Spelled.toggle t).path t.field) entries ≠ none →
      ∃ issues, launch.readSettings entries = .ok (.bad issues) ∧ issues ≠ [] ∧
        ∀ issue ∈ issues, issue = Spelled.unknown t) := by
  obtain ⟨config, there, standing⟩ := at?_cons_cons.mp standing
  obtain ⟨compiler, within, standing⟩ := at?_cons_cons.mp standing
  obtain ⟨options, inside, standing⟩ := at?_cons_cons.mp standing
  obtain ⟨on, isSwitch⟩ := valid
  have second : at? ((Spelled.toggle t).path t.field) entries = field? t.field options :=
    (at?_cons_of_map there).trans ((at?_cons_of_map within).trans (at?_cons_of_map inside))
  rw [second]
  rw [Spelled.place, droppedAt_cons there, droppedAt_cons within, droppedAt_cons inside,
    droppedAt] at others
  obtain ⟨readBase, reads, refuses⟩ := readSettings_of_config there others
  obtain ⟨readCompiler, ofCompiler⟩ := read_of_compiler within readBase
  obtain ⟨readOptions, ofOptions⟩ := readCompiler_of_options inside readCompiler
  rw [ofOptions] at ofCompiler
  constructor
  · intro absent
    obtain ⟨own, readOwn, same⟩ := Strictness.read_of_flag standing isSwitch readOptions absent
    rw [readOwn] at ofCompiler
    exact ⟨_, reads _ ofCompiler ⟨rfl, rfl, rfl⟩, isSwitch.trans (congrArg Checked.ok same.symm)⟩
  · intro both
    obtain ⟨issues, refused, some, only⟩ :=
      Strictness.read_of_both standing isSwitch readOptions both
    rw [refused] at ofCompiler
    refine ⟨_, refuses _ ofCompiler, by simpa using some, ?_⟩
    simp only [List.map_map, List.forall_mem_map]
    intro issue listed
    rw [only issue listed]
    rfl

/-! ## Settings loaded -/

/-- A value that mentions no reference is not changed by replacing references. -/
theorem holds_of_substituted {setting : Spelled} {written settings : Settings}
    (replaced : launch.substituted written = .ok (.ok settings)) (valid : setting.Valid value)
    (holds : setting.Holds value written.config) : setting.Holds value settings.config := by
  have done := expandAll_of_substituted replaced
  cases setting with
  | level =>
    obtain ⟨level, isLevel, silent⟩ := valid
    cases isLevel.symm.trans holds
    have listed : [0, 3] ∈ (Tree.ofSettings launch.mayCheck written).addresses :=
      Tree.mem_addresses_iff.mpr ⟨.text written.config.logLevel, rfl, rfl⟩
    have there := Tree.at?_expandAll_of_plain done listed rfl fun root _ => by
      rw [Tree.Plain, Tree.forall_names_iff rfl, silent]
      exact fun _ listed => absurd listed List.not_mem_nil
    exact isLevel.trans (congrArg Checked.ok (Tree.text.inj (Option.some.inj there)).symm)
  | toggle t =>
    have alike := congrArg (Tree.at? [0, 2, 1]) (Tree.shape_expandAll done)
    rw [Tree.at?_shape, Tree.at?_shape] at alike
    have same : Tree.ofStrictness settings.config.compiler.options =
        Tree.ofStrictness written.config.compiler.options :=
      Tree.eq_ofStrictness_of_shape (Option.some.inj alike)
    have equal := congrArg Tree.toStrictness? same
    rw [Tree.toStrictness?_ofStrictness, Tree.toStrictness?_ofStrictness] at equal
    rw [Spelled.Holds, Option.some.inj equal]
    exact holds

theorem load_of_refused {issues : List Issue} (refused : launch.asWritten = .ok (.bad issues)) :
    launch.load = .error (.invalid issues) := by
  rw [load_eq, refused]
  rfl

/-- A setting is what the last layer to settle it has under its first name, if
everything else is as it should be.  For the level it makes no difference whether
layers have the second name too.  A switch must not have it: then the settings are
refused, for no other reason. -/
theorem load_firstName {setting : Spelled} {all : List Mapping}
    (loaded : Layers.layers launch.host launch.disk (Layers.fileNames [] launch.arguments) =
      .ok all)
    (sources : launch.entries = .ok entries)
    (silent : ∀ name ∈ setting.names,
      at? (setting.path name) entries = at? (setting.path name) (layered all))
    (others : launch.readSettings (droppedAt setting.names setting.place entries) = .ok (.ok base))
    (replaceable : ∀ written, launch.asWritten = .ok (.ok written) →
      ∃ settings, launch.substituted written = .ok (.ok settings))
    (prevails : Prevails (setting.path setting.first) value all) (valid : setting.Valid value) :
    ((setting = .level ∨ ∀ layer ∈ all, at? (setting.path setting.second) layer = none) →
      ∃ settings, launch.load = .ok settings ∧ setting.Holds value settings.config) ∧
    ∀ t, setting = .toggle t → ∀ other : Value, other.isMap = false →
      Prevails (setting.path t.field) other all →
      ∃ issues, launch.load = .error (.invalid issues) ∧ issues ≠ [] ∧
        ∀ issue ∈ issues, issue = Spelled.unknown t := by
  have keyed := Layers.keyed_layers loaded
  have whole := asWritten_of_entries sources
  have standing : at? (setting.path setting.first) entries = some value := by
    rw [silent _ List.mem_cons_self]
    exact (at?_layered_eq_some_iff keyed valid.isMap_eq_false).mpr prevails
  constructor
  · intro alone
    obtain ⟨written, read, holds⟩ : ∃ written, launch.readSettings entries = .ok (.ok written) ∧
        setting.Holds value written.config := by
      cases setting with
      | level => exact readSettings_of_level standing valid others
      | toggle t =>
        refine (readSettings_of_toggle standing valid others).1 ?_
        rw [silent t.field (by simp [Spelled.names, Spelled.second])]
        exact at?_layered_eq_none keyed (by simp [Spelled.path]) (alone.resolve_left (by simp))
    rw [← whole] at read
    obtain ⟨settings, replaced⟩ := replaceable written read
    exact ⟨settings, load_eq_ok_iff.mpr ⟨written, read, replaced⟩,
      holds_of_substituted replaced valid holds⟩
  · rintro t rfl other leaf second
    have there : at? ((Spelled.toggle t).path t.field) entries = some other := by
      rw [silent t.field (by simp [Spelled.names, Spelled.second])]
      exact (at?_layered_eq_some_iff keyed leaf).mpr second
    obtain ⟨issues, refused, some, only⟩ :=
      (readSettings_of_toggle standing valid others).2 (by simp [there])
    exact ⟨issues, load_of_refused (whole.trans refused), some, only⟩

/-- A directory with a settings file. -/
def project (text : String) : Launch where
  host := Layers.visitor
  disk := { files := [(⟨.single, ["work", "strictify.yaml"]⟩, text)] }

/-- A project that sets the level under its first name. -/
theorem load_firstName_project :
    ∃ settings, (project "config: \x7blog-level: debug\x7d\n").load = .ok settings ∧
      settings.config.logLevel = "debug" := by
  let launch := project "config: \x7blog-level: debug\x7d\n"
  let path := Spelled.level.path
  have below : ∃ all ∈ (Layers.layers launch.host launch.disk
      (Layers.fileNames [] launch.arguments)).toOption,
      (∃ layer ∈ all.getLast?,
        (at? (path "log-level") layer).bind Layers.scalar? = some (.text "debug")) ∧
      ∀ layer ∈ all, at? (path "log_level") layer = none := by decide +kernel
  have merged : ∃ entries ∈ launch.entries.toOption,
      (at? (path "log-level") entries).bind Layers.scalar? = some (.text "debug") ∧
      at? (path "log_level") entries = none ∧
      ((launch.readSettings (droppedAt Spelled.level.names ["config"] entries)).toOption.bind
        Checked.toOption).isSome := by decide +kernel
  have done : launch.load.toOption.isSome := by decide +kernel
  obtain ⟨all, loaded, ⟨layer, last, sets⟩, alone⟩ := below
  obtain ⟨entries, sources, first, second, others⟩ := merged
  obtain ⟨base, read⟩ := Option.isSome_iff_exists.mp others
  obtain ⟨settings, load⟩ := Option.isSome_iff_exists.mp done
  rw [Include.mem_toOption_iff] at loaded sources
  have prevails := prevails_of_getLast? last (Layers.at?_of_scalar? sets)
  have silent : ∀ name ∈ Spelled.level.names,
      at? (path name) entries = at? (path name) (layered all) := by
    refine List.forall_mem_cons.mpr ⟨?_, List.forall_mem_singleton.mpr ?_⟩
    · rw [Spelled.first, Layers.at?_of_scalar? first]
      exact ((at?_layered_eq_some_iff (Layers.keyed_layers loaded) rfl).mpr prevails).symm
    · rw [Spelled.second, second,
        at?_layered_eq_none (Layers.keyed_layers loaded) (by decide) alone]
  have replaceable : ∀ written, launch.asWritten = .ok (.ok written) →
      ∃ settings, launch.substituted written = .ok (.ok settings) := by
    intro written read
    obtain ⟨other, same, replaced⟩ := load_eq_ok_iff.mp (Include.mem_toOption_iff.mp load)
    cases read.symm.trans same
    exact ⟨settings, replaced⟩
  have valid : Spelled.level.Valid (.text "debug") := ⟨"debug", rfl, by decide⟩
  obtain ⟨settings, done, holds⟩ := (load_firstName loaded sources silent
    (Checked.mem_toOption_iff.mp read) replaceable prevails valid).1 (Or.inl rfl)
  exact ⟨settings, done, (Checked.ok.inj holds).symm⟩

/-- A project that sets the level under its second name does not set it. -/
theorem load_secondName :
    let launch := project "config: \x7blog_level: debug\x7d\n"
    ∃ all settings,
      Layers.layers launch.host launch.disk (Layers.fileNames [] launch.arguments) = .ok all ∧
      Prevails (Spelled.level.path Spelled.level.second) (.text "debug") all ∧
      launch.load = .ok settings ∧ settings.config.logLevel = "info" := by
  intro launch
  have below : ∃ all ∈ (Layers.layers launch.host launch.disk
      (Layers.fileNames [] launch.arguments)).toOption, ∃ layer ∈ all.getLast?,
      (at? (Spelled.level.path Spelled.level.second) layer).bind Layers.scalar? =
        some (.text "debug") := by decide +kernel
  have done : ∃ settings ∈ launch.load.toOption, settings.config.logLevel = "info" := by
    decide +kernel
  obtain ⟨all, loaded, layer, last, sets⟩ := below
  obtain ⟨settings, load, level⟩ := done
  rw [Include.mem_toOption_iff] at loaded load
  exact ⟨all, settings, loaded, prevails_of_getLast? last (Layers.at?_of_scalar? sets), load,
    level⟩

end Launch

end Ratchet
