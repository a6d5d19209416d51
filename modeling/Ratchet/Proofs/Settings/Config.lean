import Ratchet.Proofs.Value.Merge
import Ratchet.Settings.Load

namespace Ratchet

/-!
# Reading sections

What reading a configuration makes of one setting while everything else in it is
as it was.  A record looks at its entries by their names only, so a change under
one name changes one field; and of two names of one field the first one counts.
-/

namespace Checked

variable {α β : Type}

theorem map_eq_ok_iff {f : α → β} {x : Checked α} {b : β} :
    f <$> x = .ok b ↔ ∃ a, x = .ok a ∧ f a = b := by
  cases x with
  | ok a => exact ⟨fun same => ⟨a, rfl, Checked.ok.inj same⟩, fun ⟨_, same, made⟩ => by
      cases same
      exact congrArg Checked.ok made⟩
  | bad issues => exact ⟨fun same => (nomatch same), fun ⟨_, same, _⟩ => nomatch same⟩

theorem seq_eq_ok_iff {f : Checked (α → β)} {x : Checked α} {b : β} :
    f <*> x = .ok b ↔ ∃ g a, f = .ok g ∧ x = .ok a ∧ g a = b := by
  cases f with
  | ok g =>
    cases x with
    | ok a => exact ⟨fun same => ⟨g, a, rfl, rfl, Checked.ok.inj same⟩,
        fun ⟨_, _, one, two, made⟩ => by
        cases one
        cases two
        exact congrArg Checked.ok made⟩
    | bad issues => exact ⟨fun same => (nomatch same), fun ⟨_, _, _, same, _⟩ => nomatch same⟩
  | bad issues =>
    cases x <;>
      exact ⟨fun same => (nomatch same), fun ⟨_, _, same, _, _⟩ => nomatch same⟩

theorem inside_eq_ok_iff {place : Place} {x : Checked α} {a : α} :
    inside place x = .ok a ↔ x = .ok a := by
  cases x with
  | ok b => rfl
  | bad issues => exact ⟨fun same => (nomatch same), fun same => nomatch same⟩

end Checked

namespace Mapping

theorem field?_put_self (name : String) (value : Value) (entries : Mapping) :
    field? name (put (.text name) value entries) = some value := by
  rw [field?, get?_put, if_pos (Scalar.sameKey_iff.mpr rfl)]

theorem field?_put_of_ne {name other : String} (apart : name ≠ other) (value : Value)
    (entries : Mapping) :
    field? other (put (.text name) value entries) = field? other entries := by
  rw [field?, get?_put, if_neg (fun same => apart (Scalar.sameKey_text.mp same)), field?]

/-- Only a text is the same key as a text. -/
theorem sameKey_text_iff {key : Scalar} {name : String} :
    Scalar.sameKey key (.text name) = true ↔ key = .text name := by
  rw [Scalar.sameKey_iff]
  constructor
  · intro same
    cases key with
    | text other =>
      cases same
      rfl
    | float x =>
      rw [Scalar.canonical] at same
      cases whole : x.toInt? <;> rw [whole] at same <;> cases same
    | null | bool | int | date | moment | bytes => cases same
  · rintro rfl
    rfl

theorem field?_ne_none_of_mem {name : String} {entry : Scalar × Value} {entries : Mapping}
    (listed : entry ∈ entries) (named : entry.1 = .text name) : field? name entries ≠ none := by
  induction entries with
  | nil => cases listed
  | cons first rest ih =>
    rw [field?, get?]
    split
    · simp
    · next apart =>
      rcases List.mem_cons.mp listed with rfl | below
      · exact absurd (sameKey_text_iff.mpr named) apart
      · exact ih below

/-- The entries under other than some names. -/
def dropped (names : List String) (entries : Mapping) : Mapping :=
  entries.filter fun entry => !names.any fun name => Scalar.sameKey entry.1 (.text name)

theorem field?_dropped (names : List String) (name : String) (entries : Mapping) :
    field? name (dropped names entries) = if name ∈ names then none else field? name entries := by
  induction entries with
  | nil => simp [dropped, field?, get?]
  | cons entry rest ih =>
    obtain ⟨key, value⟩ := entry
    rw [field?, dropped] at ih ⊢
    rw [List.filter_cons]
    by_cases asked : key.canonical = (Scalar.text name).canonical
    · have listed :
          (names.any fun other => Scalar.sameKey key (.text other)) = decide (name ∈ names) := by
        rw [Bool.eq_iff_iff, List.any_eq_true, decide_eq_true_iff]
        constructor
        · rintro ⟨other, inside, same⟩
          rw [Scalar.sameKey_iff, asked] at same
          exact Scalar.sameKey_text.mp (Scalar.sameKey_iff.mpr same) ▸ inside
        · exact fun inside => ⟨name, inside, Scalar.sameKey_iff.mpr asked⟩
      rw [listed, field?]
      by_cases inside : name ∈ names
      · rw [if_pos inside] at ih ⊢
        simpa [inside] using ih
      · simp [inside, get?, Scalar.sameKey_iff.mpr asked]
    · have other : Scalar.sameKey key (.text name) = false :=
        Bool.eq_false_iff.mpr fun same => asked (Scalar.sameKey_iff.mp same)
      have skipped : get? (.text name) ((key, value) :: rest) = get? (.text name) rest := by
        rw [get?, other]
        rfl
      rw [field?, skipped]
      split
      · rw [get?, other]
        exact ih
      · exact ih

theorem mem_dropped_iff {names : List String} {entries : Mapping} {entry : Scalar × Value} :
    entry ∈ dropped names entries ↔ entry ∈ entries ∧ ∀ name ∈ names, entry.1 ≠ .text name := by
  simp [dropped, List.mem_filter, ← sameKey_text_iff]

theorem field?_dropped_of_mem {names : List String} {name : String} (listed : name ∈ names)
    (entries : Mapping) : field? name (dropped names entries) = none := by
  rw [field?_dropped, if_pos listed]

theorem field?_dropped_of_notMem {names : List String} {name : String} (apart : name ∉ names)
    (entries : Mapping) : field? name (dropped names entries) = field? name entries := by
  rw [field?_dropped, if_neg apart]

end Mapping

namespace Conversion

open Mapping

variable {α : Type}

theorem lookup?_congr {names : List String} {one other : Mapping}
    (same : ∀ name ∈ names, field? name one = field? name other) :
    lookup? names one = lookup? names other := by
  induction names with
  | nil => rfl
  | cons name rest ih =>
    rw [List.forall_mem_cons] at same
    have below := ih same.2
    rw [lookup?] at below ⊢
    rw [lookup?, List.findSome?_cons, List.findSome?_cons, same.1]
    cases field? name other with
    | none => exact below
    | some value => rfl

/-- A field depends on what stands under its names only. -/
theorem defaulted_congr {names : List String} {usual : α} {read : Value → Checked α}
    {one other : Mapping} (same : ∀ name ∈ names, field? name one = field? name other) :
    defaulted names usual read one = defaulted names usual read other := by
  rw [defaulted, defaulted, lookup?_congr same]

/-- Of the names of a field the first one that is there counts. -/
theorem defaulted_of_first {name : String} {rest : List String} {usual : α}
    {read : Value → Checked α} {entries : Mapping} {value : Value}
    (found : field? name entries = some value) :
    defaulted (name :: rest) usual read entries = (read value).inside (.field name) := by
  rw [defaulted, lookup?, List.findSome?_cons, found]
  rfl

end Conversion

/-! ## The log level -/

namespace Config

open Mapping Conversion Checked

variable {host : Host} {entries : Mapping} {config base : Config}

/-- True of configurations that open the same log file. -/
structure SameLog (one other : Config) : Prop where
  root : one.logRoot = other.logRoot
  enabled : one.logger.file.sink.enabled = other.logger.file.sink.enabled
  path : one.logger.file.path = other.logger.file.path

/-- A logger section can be given a level. -/
theorem readLogger_put_level {logger : Mapping} {value : Value} {level : String}
    (valid : Conversion.text value = .ok level) {plain : Logger}
    (others : readLogger (.map logger) = .ok plain) :
    ∃ own, readLogger (.map (put (.text "level") value logger)) = .ok own ∧
      own.file.sink.enabled = plain.file.sink.enabled ∧ own.file.path = plain.file.path := by
  simp only [readLogger, record, seq_eq_ok_iff, map_eq_ok_iff] at others ⊢
  obtain ⟨_, file, ⟨_, console, ⟨usual, _, rfl⟩, readConsole, rfl⟩, readFile, rfl⟩ := others
  refine ⟨Logger.settled ⟨level, console, file⟩,
    ⟨_, file, ⟨_, console, ⟨level, ?_, rfl⟩, ?_, rfl⟩, ?_, rfl⟩, rfl, rfl⟩
  · rw [defaulted_of_first (field?_put_self _ _ _), valid]
    rfl
  · rw [← readConsole]
    exact defaulted_congr (by simp [field?_put_of_ne])
  · rw [← readFile]
    exact defaulted_congr (by simp [field?_put_of_ne])

theorem field?_withLoggerLevel {name : String} (apart : name ≠ "logger") (entries : Mapping) :
    field? name (withLoggerLevel entries) = field? name entries := by
  unfold withLoggerLevel
  split
  · split
    · rfl
    · exact field?_put_of_ne (Ne.symm apart) _ _
  · rfl

/-- The logger section with the log level handed to it, if it is, is as it was or has
that level as its own. -/
theorem logger_withLoggerLevel {value : Value}
    (standing : field? "log-level" entries = some value) :
    field? "logger" (withLoggerLevel entries) = field? "logger" entries ∨
      ∃ logger, field? "logger" entries = some (.map logger) ∧
        field? "logger" (withLoggerLevel entries) =
          some (.map (put (.text "level") value logger)) := by
  have stated : statedLevel? entries = if value.isEmpty then none else some value := by
    rw [statedLevel?, lookup?, levelNames, List.findSome?_cons, standing]
    rfl
  unfold withLoggerLevel
  split
  · next level logger states there =>
    split
    · exact Or.inl rfl
    · rw [stated] at states
      obtain ⟨-, same⟩ := Option.ite_none_left_eq_some.mp states
      cases same
      exact Or.inr ⟨logger, there, field?_put_self _ _ _⟩
  · exact Or.inl rfl

theorem withLoggerLevel_of_unset {entries : Mapping}
    (unset : ∀ name ∈ levelNames, field? name entries = none) :
    withLoggerLevel entries = entries := by
  have nothing : statedLevel? entries = none := by
    rw [statedLevel?, lookup?, List.findSome?_eq_none_iff.mpr fun name listed => by
      rw [unset name listed, Option.map_none]]
  unfold withLoggerLevel
  rw [nothing]

/-- Handing a level to the logger section does not change where the log file is. -/
theorem exists_logger {value : Value} {level : String}
    (standing : field? "log-level" entries = some value)
    (valid : Conversion.text value = .ok level) {plain : Option Logger}
    (others : defaulted ["logger"] none (fun v => some <$> readLogger v) entries = .ok plain) :
    ∃ own, defaulted ["logger"] none (fun v => some <$> readLogger v) (withLoggerLevel entries) =
        .ok own ∧ ∀ one other : String,
      (own.getD (Logger.settled { level := one })).file.sink.enabled =
          (plain.getD (Logger.settled { level := other })).file.sink.enabled ∧
        (own.getD (Logger.settled { level := one })).file.path =
          (plain.getD (Logger.settled { level := other })).file.path := by
  rcases logger_withLoggerLevel standing with same | ⟨logger, there, handed⟩
  · refine ⟨plain, ?_, fun one other => ?_⟩
    · rw [← others]
      exact defaulted_congr (List.forall_mem_singleton.mpr same)
    · cases plain with
      | none => exact ⟨rfl, rfl⟩
      | some _ => exact ⟨rfl, rfl⟩
  · rw [defaulted_of_first there, inside_eq_ok_iff, map_eq_ok_iff] at others
    obtain ⟨before, readBefore, rfl⟩ := others
    obtain ⟨own, readOwn, enabled, path⟩ := readLogger_put_level valid readBefore
    refine ⟨some own, ?_, fun _ _ => ⟨enabled, path⟩⟩
    rw [defaulted_of_first handed, inside_eq_ok_iff, map_eq_ok_iff]
    exact ⟨own, readOwn, rfl⟩

/-- The log level is what stands under the first of its names, whatever stands under
the other one. -/
theorem read_of_level {value : Value} {level : String}
    (standing : field? "log-level" entries = some value)
    (valid : Conversion.text value = .ok level)
    (others : read host (.map (dropped levelNames entries)) = .ok base) :
    ∃ config, read host (.map entries) = .ok config ∧ config.logLevel = level ∧
      SameLog config base := by
  have bare : withLoggerLevel (dropped levelNames entries) = dropped levelNames entries :=
    withLoggerLevel_of_unset fun name listed => field?_dropped_of_mem listed entries
  have kept {name : String} (apart : name ∉ levelNames) :
      field? name (dropped levelNames entries) = field? name entries :=
    field?_dropped_of_notMem apart entries
  have handed {name : String} (apart : name ∉ "logger" :: levelNames) :
      field? name (withLoggerLevel entries) = field? name (dropped levelNames entries) := by
    rw [List.mem_cons, not_or] at apart
    rw [field?_withLoggerLevel apart.1, kept apart.2]
  simp only [read, record, bare, readFields, seq_eq_ok_iff, map_eq_ok_iff] at others ⊢
  obtain ⟨_, commands, ⟨_, root, ⟨_, usual, ⟨_, compiler, ⟨_, git, ⟨plain, readLog, rfl⟩, readGit,
    rfl⟩, readCompiler, rfl⟩, -, rfl⟩, readRoot, rfl⟩, readCommands, rfl⟩ := others
  rw [defaulted_congr (List.forall_mem_singleton.mpr (kept (by decide)))] at readLog
  obtain ⟨own, readOwn, sameFile⟩ := exists_logger standing valid readLog
  have level' : field? "log-level" (withLoggerLevel entries) = some value := by
    rw [field?_withLoggerLevel (by decide), standing]
  refine ⟨_, ⟨_, commands, ⟨_, root, ⟨_, level, ⟨_, compiler, ⟨_, git, ⟨own, readOwn, rfl⟩, ?_,
    rfl⟩, ?_, rfl⟩, ?_, rfl⟩, ?_, rfl⟩, ?_, rfl⟩, rfl, rfl, (sameFile _ _).1, (sameFile _ _).2⟩
  · rw [← readGit]
    exact defaulted_congr (List.forall_mem_singleton.mpr (handed (by decide)))
  · rw [← readCompiler]
    exact defaulted_congr (List.forall_mem_singleton.mpr (handed (by decide)))
  · rw [levelNames, defaulted_of_first level', valid]
    rfl
  · rw [← readRoot]
    exact defaulted_congr (List.forall_mem_singleton.mpr (handed (by decide)))
  · rw [← readCommands]
    exact defaulted_congr (List.forall_mem_singleton.mpr (handed (by decide)))

end Config

/-! ## A switch of the compiler -/

namespace Strictness

open Mapping Conversion Checked

variable {options : Mapping} {toggle : Toggle}

theorem eq_of_mem_names {one other : Toggle} {name : String} (first : name ∈ names one)
    (second : name ∈ names other) : one = other := by
  revert first second
  simp only [names, List.mem_cons, List.not_mem_nil, or_false]
  rintro (rfl | rfl) <;> cases one <;> cases other <;> decide

theorem flag_ne_field (toggle : Toggle) : toggle.flag ≠ toggle.field := by
  cases toggle <;> decide

/-- The switches that are read, if each of them is. -/
theorem foldr_of_each {f : Toggle → Bool}
    (each : ∀ toggle, defaulted (names toggle) true boolean options = .ok (f toggle))
    (toggles : List Toggle) :
    toggles.foldr (fun toggle rest =>
      List.cons <$> ((fun on => (toggle, on)) <$> defaulted (names toggle) true boolean options) <*>
        rest) (.ok []) = .ok (toggles.map fun toggle => (toggle, f toggle)) := by
  induction toggles with
  | nil => rfl
  | cons toggle rest ih =>
    rw [List.foldr_cons, ih, each toggle]
    rfl

theorem each_of_foldr {toggles : List Toggle} {values : List (Toggle × Bool)}
    (read : toggles.foldr (fun toggle rest =>
      List.cons <$> ((fun on => (toggle, on)) <$> defaulted (names toggle) true boolean options) <*>
        rest) (.ok []) = .ok values) :
    ∀ toggle ∈ toggles, ∃ on, defaulted (names toggle) true boolean options = .ok on := by
  induction toggles generalizing values with
  | nil => exact fun _ listed => nomatch listed
  | cons toggle rest ih =>
    rw [List.foldr_cons, seq_eq_ok_iff] at read
    obtain ⟨_, others, first, below, -⟩ := read
    obtain ⟨pair, made, -⟩ := map_eq_ok_iff.mp first
    obtain ⟨on, found, -⟩ := map_eq_ok_iff.mp made
    exact List.forall_mem_cons.mpr ⟨⟨on, found⟩, ih below⟩

/-- Switches that are all read make a record unless it has other entries. -/
theorem read_of_each {f : Toggle → Bool}
    (each : ∀ toggle, defaulted (names toggle) true boolean options = .ok (f toggle)) :
    read (.map options) =
      (fun _ => ⟨f⟩) <$> nothingElse (Toggle.all.map names) options := by
  have back : (fun toggle => ((Toggle.all.map fun toggle => (toggle, f toggle)).lookup toggle).getD
      true) = f := by
    funext toggle
    cases toggle <;> rfl
  simp only [read, record, foldr_of_each each]
  cases nothingElse (Toggle.all.map names) options with
  | ok => exact congrArg (fun g => Checked.ok (Strictness.mk g)) back
  | bad => rfl

theorem each_of_read {s : Strictness} (read : Strictness.read (.map options) = .ok s) :
    (∀ toggle, ∃ on, defaulted (names toggle) true boolean options = .ok on) ∧
      nothingElse (Toggle.all.map names) options = .ok () := by
  simp only [Strictness.read, record, seq_eq_ok_iff, map_eq_ok_iff] at read
  obtain ⟨_, _, ⟨values, each, rfl⟩, nothing, -⟩ := read
  exact ⟨fun toggle => each_of_foldr each toggle (Toggle.mem_all toggle), nothing⟩

/-- What is wrong with an entry of a record that uses some names. -/
def extra? (used : List String) (entry : Scalar × Value) : Option Issue :=
  match entry.1 with
  | .text name => if used.contains name then none else some ⟨.extra, [.field name]⟩
  | other => some ⟨.key, [keyPlace other]⟩

theorem nothingElse_eq (fields : List (List String)) (entries : Mapping) :
    nothingElse fields entries =
      if (entries.filterMap (extra? (usedNames fields entries))).isEmpty then .ok ()
      else .bad (entries.filterMap (extra? (usedNames fields entries))) := rfl

theorem mem_of_lookup? {fields : List String} {entries : Mapping} {name : String} {value : Value}
    (found : lookup? fields entries = some (name, value)) : name ∈ fields := by
  rw [lookup?] at found
  obtain ⟨other, listed, found⟩ := List.exists_of_findSome?_eq_some found
  obtain ⟨_, -, same⟩ := Option.map_eq_some_iff.mp found
  cases same
  exact listed

theorem mem_usedNames_iff {name : String} :
    name ∈ usedNames (Toggle.all.map names) options ↔
      ∃ toggle value, lookup? (names toggle) options = some (name, value) := by
  simp [usedNames, List.mem_filterMap, Toggle.mem_all]

theorem exists_usedName {used : List String} {entry : Scalar × Value}
    (fine : extra? used entry = none) : ∃ name ∈ used, entry.1 = .text name := by
  obtain ⟨key, value⟩ := entry
  unfold extra? at fine
  split at fine
  · next name _ =>
    split at fine
    · next inside => exact ⟨name, List.contains_iff_mem.mp inside, ‹_›⟩
    · cases fine
  · cases fine

theorem extra?_eq_none {used : List String} {entry : Scalar × Value} {name : String}
    (named : entry.1 = .text name) (inside : name ∈ used) : extra? used entry = none := by
  simp only [extra?, named]
  rw [if_pos (List.contains_iff_mem.mpr inside)]

theorem extras_eq_nil {fields : List (List String)} {entries : Mapping}
    (nothing : nothingElse fields entries = .ok ()) :
    ∀ entry ∈ entries, extra? (usedNames fields entries) entry = none := by
  rw [nothingElse_eq] at nothing
  split at nothing
  · next empty => exact List.filterMap_eq_nil_iff.mp (List.isEmpty_iff.mp empty)
  · cases nothing

/-- A switch under its first name is used under that name and under no other. -/
theorem extra?_of_flag {value : Value} (standing : field? toggle.flag options = some value)
    (others : nothingElse (Toggle.all.map names) (dropped (names toggle) options) = .ok ())
    {entry : Scalar × Value} (listed : entry ∈ options) :
    extra? (usedNames (Toggle.all.map names) options) entry =
      if entry.1 = .text toggle.field then some ⟨.extra, [.field toggle.field]⟩ else none := by
  have usual : lookup? (names toggle) options = some (toggle.flag, value) := by
    rw [lookup?, names, List.findSome?_cons, standing]
    rfl
  have elsewhere {other : Toggle} (apart : other ≠ toggle) :
      lookup? (names other) (dropped (names toggle) options) = lookup? (names other) options :=
    lookup?_congr fun _ inside => field?_dropped_of_notMem
      (fun both => apart (eq_of_mem_names inside both)) options
  by_cases field : entry.1 = .text toggle.field
  · have unused : toggle.field ∉ usedNames (Toggle.all.map names) options := by
      rw [mem_usedNames_iff]
      rintro ⟨other, found, used⟩
      have same : toggle = other := eq_of_mem_names (by simp [names]) (mem_of_lookup? used)
      subst same
      rw [usual] at used
      exact flag_ne_field toggle (Prod.mk.inj (Option.some.inj used)).1
    rw [if_pos field, extra?, field]
    exact if_neg (by simpa using unused)
  · rw [if_neg field]
    by_cases flag : entry.1 = .text toggle.flag
    · exact extra?_eq_none flag (mem_usedNames_iff.mpr ⟨toggle, value, usual⟩)
    · have kept : entry ∈ dropped (names toggle) options :=
        mem_dropped_iff.mpr ⟨listed, by simp [names, flag, field]⟩
      obtain ⟨name, used, named⟩ := exists_usedName (extras_eq_nil others entry kept)
      obtain ⟨other, found, lookup⟩ := mem_usedNames_iff.mp used
      have apart : other ≠ toggle := by
        rintro rfl
        rw [lookup?, List.findSome?_eq_none_iff.mpr fun name inside => by
          rw [field?_dropped_of_mem inside, Option.map_none]] at lookup
        cases lookup
      exact extra?_eq_none named (mem_usedNames_iff.mpr ⟨other, found, elsewhere apart ▸ lookup⟩)

theorem exists_each {value : Value} {on : Bool} {s : Strictness}
    (standing : field? toggle.flag options = some value) (valid : boolean value = .ok on)
    (others : read (.map (dropped (names toggle) options)) = .ok s) :
    ∃ f : Toggle → Bool, f toggle = on ∧
      ∀ other, defaulted (names other) true boolean options = .ok (f other) := by
  choose g each using (each_of_read others).1
  refine ⟨fun other => if other = toggle then on else g other, if_pos rfl, fun other => ?_⟩
  dsimp only
  by_cases same : other = toggle
  · subst same
    rw [if_pos rfl, names, defaulted_of_first standing, valid]
    rfl
  · rw [if_neg same, ← each other]
    exact (defaulted_congr fun _ inside => field?_dropped_of_notMem
      (fun both => same (eq_of_mem_names inside both)) options).symm

/-- A switch is what stands under its first name if nothing stands under the other. -/
theorem read_of_flag {value : Value} {on : Bool} {s : Strictness}
    (standing : field? toggle.flag options = some value) (valid : boolean value = .ok on)
    (others : read (.map (dropped (names toggle) options)) = .ok s)
    (absent : field? toggle.field options = none) :
    ∃ own, read (.map options) = .ok own ∧ own.enabled toggle = on := by
  obtain ⟨f, here, each⟩ := exists_each standing valid others
  have fine : ∀ entry ∈ options,
      extra? (usedNames (Toggle.all.map names) options) entry = none := by
    intro entry listed
    rw [extra?_of_flag standing (each_of_read others).2 listed, if_neg]
    intro named
    exact field?_ne_none_of_mem listed named absent
  refine ⟨⟨f⟩, ?_, here⟩
  rw [read_of_each each, nothingElse_eq, List.filterMap_eq_nil_iff.mpr fine]
  rfl

/-- A switch under both of its names is refused, for nothing but that. -/
theorem read_of_both {value : Value} {on : Bool} {s : Strictness}
    (standing : field? toggle.flag options = some value) (valid : boolean value = .ok on)
    (others : read (.map (dropped (names toggle) options)) = .ok s)
    (there : field? toggle.field options ≠ none) :
    ∃ issues, read (.map options) = .bad issues ∧ issues ≠ [] ∧
      ∀ issue ∈ issues, issue = ⟨.extra, [.field toggle.field]⟩ := by
  obtain ⟨f, -, each⟩ := exists_each standing valid others
  obtain ⟨second, found⟩ := Option.ne_none_iff_exists'.mp there
  obtain ⟨entry, listed, same, -⟩ := mem_of_get? found
  have named : entry.1 = .text toggle.field := sameKey_text_iff.mp (Scalar.sameKey_iff.mpr same)
  have issues : options.filterMap (extra? (usedNames (Toggle.all.map names) options)) =
      options.filterMap fun other => if other.1 = .text toggle.field then
        some ⟨.extra, [.field toggle.field]⟩ else none :=
    List.filterMap_congr fun other inside => extra?_of_flag standing (each_of_read others).2 inside
  have refused : (⟨.extra, [.field toggle.field]⟩ : Issue) ∈
      options.filterMap (extra? (usedNames (Toggle.all.map names) options)) := by
    rw [issues, List.mem_filterMap]
    exact ⟨entry, listed, if_pos named⟩
  refine ⟨_, ?_, List.ne_nil_of_mem refused, fun issue inside => ?_⟩
  · rw [read_of_each each, nothingElse_eq, if_neg]
    · rfl
    · exact fun empty => List.ne_nil_of_mem refused (List.isEmpty_iff.mp empty)
  · rw [issues, List.mem_filterMap] at inside
    obtain ⟨_, -, made⟩ := inside
    exact (Option.some.inj (Option.ite_none_right_eq_some.mp made).2).symm

end Strictness

/-! ## The switches within the configuration -/

namespace Config

open Mapping Conversion Checked

variable {host : Host} {entries : Mapping} {value other : Value}

/-- The options are read on their own, whatever the rest of their section is. -/
theorem readCompiler_of_options {base : CompilerSection}
    (there : field? "options" entries = some value)
    (others : readCompiler (.map (put (.text "options") other entries)) = .ok base) :
    Strictness.read other = .ok base.options ∧
      readCompiler (.map entries) =
        (fun options => { base with options }) <$>
          (Strictness.read value).inside (.field "options") := by
  have kept {α : Type} {name : String} {usual : α} {read : Value → Checked α}
      (apart : "options" ≠ name) :
      defaulted [name] usual read (put (.text "options") other entries) =
        defaulted [name] usual read entries :=
    defaulted_congr (List.forall_mem_singleton.mpr (field?_put_of_ne apart other entries))
  simp only [readCompiler, record, seq_eq_ok_iff, map_eq_ok_iff] at others ⊢
  obtain ⟨_, mode, ⟨_, timeout, ⟨_, codes, ⟨_, options, ⟨command, readCommand, rfl⟩, readOptions,
    rfl⟩, readCodes, rfl⟩, readTimeout, rfl⟩, readMode, rfl⟩ := others
  rw [defaulted_of_first (field?_put_self _ _ _), inside_eq_ok_iff] at readOptions
  refine ⟨readOptions, ?_⟩
  rw [kept (by decide)] at readCommand readCodes readTimeout readMode
  rw [readCommand, readCodes, readTimeout, readMode, defaulted_of_first there]
  cases Strictness.read value <;> rfl

/-- Whether a level is handed to the logger section depends on the level and that
section. -/
theorem logger_withLoggerLevel_congr {one two : Mapping}
    (same : ∀ name ∈ "logger" :: levelNames, field? name one = field? name two) :
    field? "logger" (withLoggerLevel one) = field? "logger" (withLoggerLevel two) := by
  rw [List.forall_mem_cons] at same
  have stated : statedLevel? one = statedLevel? two := by
    rw [statedLevel?, statedLevel?, lookup?_congr same.2]
  unfold withLoggerLevel
  rw [stated, same.1]
  split
  · split
    · exact same.1
    · rw [field?_put_self, field?_put_self]
  · exact same.1

/-- The compiler's section is read on its own, whatever the rest of the
configuration is. -/
theorem read_of_compiler {base : Config} (there : field? "compiler" entries = some value)
    (others : read host (.map (put (.text "compiler") other entries)) = .ok base) :
    readCompiler other = .ok base.compiler ∧
      read host (.map entries) =
        (fun compiler => { base with compiler }) <$>
          (readCompiler value).inside (.field "compiler") := by
  have kept {name : String} (apart : "compiler" ≠ name) :
      field? name (put (.text "compiler") other entries) = field? name entries :=
    field?_put_of_ne apart other entries
  have handed {α : Type} {names : List String} {usual : α} {read : Value → Checked α}
      (apart : "compiler" ∉ names) :
      defaulted names usual read (withLoggerLevel (put (.text "compiler") other entries)) =
        defaulted names usual read (withLoggerLevel entries) := by
    refine defaulted_congr fun name listed => ?_
    have apart : "compiler" ≠ name := fun same => apart (same ▸ listed)
    by_cases logger : name = "logger"
    · subst logger
      refine logger_withLoggerLevel_congr fun name listed => kept ?_
      rintro rfl
      exact absurd listed (by decide)
    · rw [field?_withLoggerLevel logger, field?_withLoggerLevel logger, kept apart]
  have within (v : Mapping) : field? "compiler" (withLoggerLevel v) = field? "compiler" v :=
    field?_withLoggerLevel (by decide) v
  simp only [read, record, readFields, seq_eq_ok_iff, map_eq_ok_iff] at others ⊢
  obtain ⟨_, commands, ⟨_, root, ⟨_, level, ⟨_, compiler, ⟨_, git, ⟨logger, readLog, rfl⟩, readGit,
    rfl⟩, readOther, rfl⟩, readLevel, rfl⟩, readRoot, rfl⟩, readCommands, rfl⟩ := others
  rw [defaulted_of_first ((within _).trans (field?_put_self _ _ _)), inside_eq_ok_iff] at readOther
  refine ⟨readOther, ?_⟩
  rw [handed (by decide)] at readLog readGit readLevel readRoot readCommands
  rw [readLog, readGit, readLevel, readRoot, readCommands,
    defaulted_of_first ((within _).trans there)]
  cases readCompiler value <;> rfl

end Config

end Ratchet
