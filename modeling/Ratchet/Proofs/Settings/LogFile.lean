import Ratchet.Proofs.Settings.Field
import Ratchet.Proofs.Settings.Written

namespace Ratchet

/-!
# Which log file is opened

The log file is opened while the configuration is read, and the references in the
settings are replaced after that.  So the file has the path that the settings have
as written.  A reference in the pattern of the path is taken for a field of the
pattern, and as there is no such field the settings are not loaded at all.  A
reference in the log root stays in the name of the file.
-/

namespace LogFile

open Reference (isNameChar mentioned IsName Shut)
open Template (piecesWithin fillPieces)

/-! ## Patterns by their parts -/

/-- What the references of a pattern begin with. -/
inductive Head where
  | config
  | platformdirs

def Head.name : Head → String
  | config => "config"
  | platformdirs => "platformdirs"

theorem Head.letters (head : Head) : ∀ c ∈ head.name.toList, isNameChar c = true :=
  List.all_eq_true.mp (by cases head <;> decide)

theorem Head.splitName (head : Head) (rest : List Char) :
    (Template.splitName (head.name.toList ++ '.' :: rest)).1 = head.name.toList := by
  have undotted : ∀ c ∈ head.name.toList, (c != '.' && c != '[') = true :=
    List.all_eq_true.mp (by cases head <;> decide)
  rw [Template.splitName]
  dsimp only
  rw [List.takeWhile_append_of_pos undotted, List.takeWhile_cons_of_neg (by decide),
    List.append_nil]

/-- A part of a pattern: plain text, one of the two fields, or a reference. -/
inductive Part where
  | text (cs : List Char) (plain : '{' ∉ cs ∧ '}' ∉ cs)
  | root
  | run
  | reference (head : Head) (rest : List Char) (letters : ∀ c ∈ rest, isNameChar c = true)

namespace Part

/-- What stands between the braces of a part. -/
def name? : Part → Option (List Char)
  | text .. => none
  | root => some "log_root".toList
  | run => some "run_name".toList
  | reference head rest _ => some (head.name.toList ++ '.' :: rest)

def written : Part → List Char
  | text cs _ => cs
  | root => '{' :: ("log_root".toList ++ ['}'])
  | run => '{' :: ("run_name".toList ++ ['}'])
  | reference head rest _ => '{' :: (head.name.toList ++ '.' :: rest ++ ['}'])

/-- What a part comes to.  Nothing is known of the names that references begin
with. -/
def filled (directory : Path) (name : String) : Part → Except Template.Error (List Char)
  | text cs _ => .ok cs
  | root => .ok directory.text.toList
  | run => .ok name.toList
  | reference head .. => .error (.noName head.name)

theorem written_of_name? {part : Part} {name : List Char} (named : part.name? = some name) :
    part.written = '{' :: (name ++ ['}']) := by
  cases part with
  | text => cases named
  | root | run | reference =>
    cases named
    rfl

theorem isName {part : Part} {name : List Char} (named : part.name? = some name) : IsName name := by
  cases part with
  | text => cases named
  | root | run =>
    cases named
    exact ⟨by decide, List.all_eq_true.mp (by decide)⟩
  | reference head rest letters =>
    cases named
    refine ⟨by simp, fun c inside => ?_⟩
    rcases List.mem_append.mp inside with first | behind
    · exact head.letters c first
    · rcases List.mem_cons.mp behind with rfl | later
      · decide
      · exact letters c later

/-- A part as a part of a template. -/
def fragment (part : Part) : Template.Fragment :=
  match part.name? with
  | none => .text part.written
  | some name => .field name

theorem written_fragment (part : Part) : part.fragment.written = part.written := by
  unfold fragment
  split
  · rfl
  · next named => exact (written_of_name? named).symm

theorem proper_fragment (part : Part) : part.fragment.Proper := by
  unfold fragment
  split
  · next unnamed =>
    cases part with
    | root | run | reference => cases unnamed
    | text cs plain => exact plain
  · next named => exact Reference.proper_of_isName (isName named)

end Part

/-- The text of a pattern. -/
def written (parts : List Part) : List Char := parts.flatMap Part.written

/-- What a pattern comes to, up to the first part that comes to nothing. -/
def filled (directory : Path) (name : String) : List Part → Except Template.Error (List Char)
  | [] => .ok []
  | part :: rest => do
    let first ← part.filled directory name
    return first ++ (← filled directory name rest)

/-- What the first reference of a pattern begins with. -/
def reference? (parts : List Part) : Option Head :=
  parts.findSome? fun part =>
    match part with
    | .reference head .. => some head
    | _ => none

section Filling

variable (directory : Path) (name : String)

/-- The things that the fields of a pattern may name. -/
def fields : Template.Names := [("log_root", .path directory), ("run_name", .text name)]

theorem first_of_head (head : Head) :
    Template.first (fields directory name) head.name.toList = .error (.noName head.name) := by
  have position : Template.position? head.name.toList = .ok none := by
    cases head <;> decide +kernel
  rw [Template.first, position]
  cases head <;> rfl

theorem piece_of_name? {part : Part} {field : List Char} (named : part.name? = some field)
    (inner : List Char → Except Template.Error (List Char)) :
    Template.piece inner (Template.subject (fields directory name)) (.field ⟨field, none, []⟩) =
      part.filled directory name := by
  cases part with
  | text => cases named
  | root =>
    cases named
    have plain : Template.Field.plainName? ⟨"log_root".toList, none, []⟩ = some "log_root" := by
      decide +kernel
    have known : (fields directory name).lookup "log_root" = some (.path directory) := rfl
    obtain ⟨-, -, found⟩ := Template.subject_of_plain plain known
    rw [Template.piece, found]
    rfl
  | run =>
    cases named
    have plain : Template.Field.plainName? ⟨"run_name".toList, none, []⟩ = some "run_name" := by
      decide +kernel
    have known : (fields directory name).lookup "run_name" = some (.text name) := rfl
    obtain ⟨-, -, found⟩ := Template.subject_of_plain plain known
    rw [Template.piece, found]
    rfl
  | reference head rest =>
    cases named
    rw [Template.piece, Template.subject]
    dsimp only
    rw [head.splitName, first_of_head]
    rfl

theorem fillParts_fragment (inner : List Char → Except Template.Error (List Char))
    (parts : List Part) :
    Template.fillParts inner (Template.subject (fields directory name))
        (parts.map Part.fragment) = filled directory name parts := by
  induction parts with
  | nil => rfl
  | cons part rest ih =>
    rw [List.map_cons, Template.fillParts, ih, filled, Part.fragment]
    cases named : part.name? with
    | none =>
      cases part with
      | root | run | reference => cases named
      | text => rfl
    | some field =>
      dsimp only
      rw [Template.Fragment.filled, piece_of_name? directory name named]

end Filling

/-- A pattern names the path that its parts come to. -/
theorem path_written {pattern : String} {parts : List Part} (form : pattern.toList = written parts)
    (directory : Path) (name : String) :
    path pattern directory name =
      (filled directory name parts).map fun cs => .ofText (String.ofList cs) := by
  have fragments : pattern.toList =
      (parts.map Part.fragment).flatMap Template.Fragment.written := by
    rw [form, written, List.flatMap_map]
    simp only [Part.written_fragment]
  have proper : ∀ fragment ∈ parts.map Part.fragment, fragment.Proper := by
    rw [List.forall_mem_map]
    exact fun part _ => part.proper_fragment
  have whole := Template.fill_written fragments proper (fields directory name)
  rw [fillParts_fragment] at whole
  refine (congrArg (Except.map Path.ofText) whole).trans ?_
  cases filled directory name parts <;> rfl

/-! ## References in patterns and paths -/

variable {directory : Path} {name : String} {parts : List Part}

theorem filled_of_reference {head : Head} (first : reference? parts = some head) :
    filled directory name parts = .error (.noName head.name) := by
  induction parts with
  | nil => cases first
  | cons part rest ih =>
    rw [reference?, List.findSome?_cons] at first
    cases part with
    | reference =>
      cases first
      rfl
    | text | root | run =>
      rw [filled, ih first]
      rfl

/-- The log root makes no difference to a pattern without it. -/
theorem filled_congr (absent : Part.root ∉ parts) (other : Path) :
    filled directory name parts = filled other name parts := by
  induction parts with
  | nil => rfl
  | cons part rest ih =>
    rw [List.mem_cons, not_or] at absent
    have same : part.filled directory name = part.filled other name := by
      cases part with
      | root => exact absurd rfl absent.1
      | text | run | reference => rfl
    rw [filled, filled, same, ih absent.2]

theorem mentioned_written (parts : List Part) :
    mentioned (written parts) = parts.filterMap Part.name? := by
  induction parts with
  | nil => rfl
  | cons part rest ih =>
    have split : written (part :: rest) = part.written ++ written rest := rfl
    rw [split, List.filterMap_cons]
    cases named : part.name? with
    | none =>
      cases part with
      | root | run | reference => cases named
      | text cs plain =>
        rw [Part.written, Reference.mentioned_append_of_not_mem plain.1, ih]
    | some field =>
      rw [Part.written_of_name? named, List.cons_append, List.append_assoc, List.singleton_append,
        Reference.mentioned_reference (Part.isName named), ih]

/-- A path that a pattern names mentions what the log root does if the pattern has
that, and else nothing. -/
theorem mentioned_filled {cs : List Char} (shut : Shut directory.text.toList)
    (plain : '{' ∉ name.toList) (whole : filled directory name parts = .ok cs) :
    (∀ field ∈ mentioned cs, Part.root ∈ parts ∧ field ∈ mentioned directory.text.toList) ∧
      (Part.root ∈ parts → mentioned directory.text.toList ⊆ mentioned cs) := by
  induction parts generalizing cs with
  | nil =>
    cases whole
    exact ⟨fun _ inside => absurd inside List.not_mem_nil,
      fun inside => absurd inside List.not_mem_nil⟩
  | cons part rest ih =>
    rw [filled] at whole
    obtain ⟨first, here, more⟩ := Reference.bind_eq_ok_iff.mp whole
    obtain ⟨others, later, same⟩ := Reference.bind_eq_ok_iff.mp more
    cases same
    obtain ⟨fewer, keeps⟩ := ih later
    -- Only the log root mentions anything.
    have silent (other : part ≠ .root) (none : '{' ∉ first) :
        (∀ field ∈ mentioned (first ++ others),
          Part.root ∈ part :: rest ∧ field ∈ mentioned directory.text.toList) ∧
        (Part.root ∈ part :: rest →
          mentioned directory.text.toList ⊆ mentioned (first ++ others)) := by
      rw [Reference.mentioned_append_of_not_mem none]
      refine ⟨fun field inside => (fewer field inside).imp_left (List.mem_cons_of_mem _), ?_⟩
      exact fun listed => keeps (List.mem_of_ne_of_mem (Ne.symm other) listed)
    cases part with
    | text cs plain =>
      cases here
      exact silent (by simp) plain.1
    | run =>
      cases here
      exact silent (by simp) plain
    | root =>
      cases here
      rw [Reference.mentioned_append shut]
      refine ⟨fun field inside => ⟨List.mem_cons_self, ?_⟩, fun _ => List.subset_append_left _ _⟩
      exact (List.mem_append.mp inside).elim id fun behind => (fewer field behind).2
    | reference => cases here

/-! ## Opening the file -/

variable {disk : Disk} {place root : Path} {file : Config.LogFile} {run : String}

theorem opened_of_path_error (enabled : file.sink.enabled = true) {error : Template.Error}
    (fails : path file.path root run = .error error) :
    opened disk place file root run = .error (.template error) := by
  rw [opened, if_pos enabled, fails]

theorem exists_of_opened (enabled : file.sink.enabled = true) {found : Option Path}
    (opens : opened disk place file root run = .ok found) :
    ∃ p, found = some p ∧ path file.path root run = .ok p := by
  rw [opened, if_pos enabled] at opens
  split at opens
  · cases opens
  next p named =>
    refine ⟨p, ?_, named⟩
    split at opens
    · cases opens
    · split at opens <;> cases opens
      rfl

end LogFile

namespace Launch

open Reference (mentioned Shut resolve?)

variable {launch : Launch} {entries : Mapping} {config : Config} {written settings : Settings}

/-- Replacing references changes nothing in a pattern without any. -/
theorem pattern_of_substituted {parts : List LogFile.Part}
    (replaced : launch.substituted written = .ok (.ok settings))
    (pattern : written.config.logger.file.path.toList = LogFile.written parts)
    (none : LogFile.reference? parts = none) :
    settings.config.logger.file.path = written.config.logger.file.path := by
  have listed : [0, 0, 2, 4] ∈ (Tree.ofSettings launch.mayCheck written).addresses :=
    Tree.mem_addresses_iff.mpr ⟨.text written.config.logger.file.path, rfl, rfl⟩
  have there := Tree.at?_expandAll_of_plain (expandAll_of_substituted replaced) listed rfl
    fun root alike => by
      rw [Tree.Plain, Tree.forall_names_iff rfl, pattern, LogFile.mentioned_written]
      intro name inside
      obtain ⟨part, member, named⟩ := List.mem_filterMap.mp inside
      cases part with
      | text => cases named
      | root =>
        cases named
        rw [String.ofList_toList]
        exact resolve?_of_field launch.host alike (by decide)
      | run =>
        cases named
        rw [String.ofList_toList]
        exact resolve?_of_field launch.host alike (by decide)
      | reference => cases List.findSome?_eq_none_iff.mp none _ member
  exact Tree.text.inj (Option.some.inj there)

/-- Replacing references does not change a log root without any. -/
theorem logRoot_of_substituted (replaced : launch.substituted written = .ok (.ok settings))
    (none : mentioned written.config.logRoot.text.toList = []) :
    settings.config.logRoot = written.config.logRoot := by
  have listed : [0, 4] ∈ (Tree.ofSettings launch.mayCheck written).addresses :=
    Tree.mem_addresses_iff.mpr ⟨.path written.config.logRoot, rfl, rfl⟩
  have there := Tree.at?_expandAll_of_plain (expandAll_of_substituted replaced) listed rfl
    fun root _ => by
      rw [Tree.Plain, Tree.forall_names_iff rfl, none]
      exact fun _ listed => absurd listed List.not_mem_nil
  exact Tree.path.inj (Option.some.inj there)

/-- Loading fails if the path of the log file cannot be made, unless the pattern is
malformed: then the settings are refused. -/
theorem load_of_path_error (sources : launch.entries = .ok entries)
    (texts : ∀ key ∈ Mapping.keys entries, ∃ s, key = .text s)
    (read : Config.read launch.host ((Mapping.field? "config" entries).getD (.map [])) = .ok config)
    (logging : launch.host.opensLogs = true)
    (enabled : config.logger.file.sink.enabled = true) {error : Template.Error}
    (fails : LogFile.path config.logger.file.path config.logRoot LogFile.runName = .error error)
    (wellFormed : (LogFile.Fault.template error).isMalformed = false) :
    launch.load = .error (.logFile (.template error)) := by
  have refused : launch.asWritten = .error (.logFile (.template error)) := by
    rw [asWritten_of_entries sources, readSettings_eq texts, readConfig, read]
    dsimp only
    rw [opened, if_pos logging, LogFile.opened_of_path_error enabled fails]
    dsimp only
    rw [wellFormed]
    rfl
  rw [load_eq, refused]
  rfl

/-- The path of the log file stays the same when references are replaced, and has
none itself, exactly if there are none in a log root that the pattern uses. -/
theorem path_of_substituted_iff {parts : List LogFile.Part} {p : Path}
    (replaced : launch.substituted written = .ok (.ok settings))
    (pattern : written.config.logger.file.path.toList = LogFile.written parts)
    (named : LogFile.path written.config.logger.file.path written.config.logRoot LogFile.runName =
      .ok p)
    (shut : Shut written.config.logRoot.text.toList)
    (resolvable : ∀ name ∈ (Tree.path written.config.logRoot).names,
      resolve? launch.host (.ofSettings launch.mayCheck written) name ≠ .ok none) :
    LogFile.path settings.config.logger.file.path settings.config.logRoot LogFile.runName = .ok p ∧
        Tree.Plain launch.host (.ofSettings launch.mayCheck written) (.path p) ↔
      (.root ∈ parts → mentioned written.config.logRoot.text.toList = []) := by
  obtain ⟨cs, filled, rfl⟩ :=
    Reference.map_eq_ok_iff.mp ((LogFile.path_written pattern _ _).symm.trans named)
  have none : LogFile.reference? parts = none := by
    rw [Option.eq_none_iff_forall_ne_some]
    intro head first
    cases (LogFile.filled_of_reference first).symm.trans filled
  obtain ⟨fewer, keeps⟩ := LogFile.mentioned_filled shut (by decide) filled
  rw [Tree.Plain, Tree.forall_names_iff rfl, Reference.mentioned_ofText, String.toList_ofList]
  rw [Tree.forall_names_iff rfl] at resolvable
  constructor
  · rintro ⟨-, plain⟩ uses
    exact List.eq_nil_iff_forall_not_mem.mpr fun name inside =>
      resolvable name inside (plain name (keeps uses inside))
  · intro quiet
    refine ⟨?_, fun name inside => ?_⟩
    · rw [pattern_of_substituted replaced pattern none, ← named]
      by_cases uses : LogFile.Part.root ∈ parts
      · rw [logRoot_of_substituted replaced (quiet uses)]
      · rw [LogFile.path_written pattern, LogFile.path_written pattern,
          LogFile.filled_congr uses written.config.logRoot]
    · obtain ⟨uses, there⟩ := fewer name inside
      rw [quiet uses] at there
      cases there

/-- A pattern with a reference keeps settings from being loaded.  Without one the
file that is opened when the settings are read has the name that the loaded
settings give it, and no reference in its name, exactly if the pattern does
without the log root or the log root has no references. -/
theorem load_logFile {parts : List LogFile.Part} (sources : launch.entries = .ok entries)
    (texts : ∀ key ∈ Mapping.keys entries, ∃ s, key = .text s)
    (read : Config.read launch.host ((Mapping.field? "config" entries).getD (.map [])) = .ok config)
    (logging : launch.host.opensLogs = true)
    (enabled : config.logger.file.sink.enabled = true)
    (pattern : config.logger.file.path.toList = LogFile.written parts) :
    (∀ head, LogFile.reference? parts = some head →
      launch.load = .error (.logFile (.template (.noName head.name)))) ∧
    ∀ written settings, launch.asWritten = .ok (.ok written) → launch.load = .ok settings →
      Shut config.logRoot.text.toList →
      (∀ name ∈ (Tree.path config.logRoot).names,
        resolve? launch.host (.ofSettings launch.mayCheck written) name ≠ .ok none) →
      ∃ p, LogFile.opened launch.disk launch.host.directory config.logger.file config.logRoot
          LogFile.runName = .ok (some p) ∧
        (LogFile.path settings.config.logger.file.path settings.config.logRoot LogFile.runName =
            .ok p ∧ Tree.Plain launch.host (.ofSettings launch.mayCheck written) (.path p) ↔
          (.root ∈ parts → mentioned config.logRoot.text.toList = [])) := by
  constructor
  · intro head first
    refine load_of_path_error sources texts read logging enabled ?_ rfl
    rw [LogFile.path_written pattern, LogFile.filled_of_reference first]
    rfl
  · intro written settings asWritten loaded shut resolvable
    obtain ⟨_, same, replaced⟩ := load_eq_ok_iff.mp loaded
    cases asWritten.symm.trans same
    have readAs := (asWritten_of_entries sources).symm.trans asWritten
    obtain ⟨readAgain, stands⟩ := config_of_readSettings readAs
    cases read.symm.trans readAgain
    obtain ⟨found, opens⟩ := (opened_eq_ok_iff.mp stands).2 logging
    obtain ⟨p, rfl, named⟩ := LogFile.exists_of_opened enabled opens
    exact ⟨p, opens, path_of_substituted_iff replaced pattern named shut resolvable⟩

/-- A pattern that does without the log root, whose reference is replaced. -/
theorem load_logFile_apart :
    let launch := ofConfig [
      ("log_root", .text "\x7bplatformdirs.user_state_dir\x7d/logs"),
      ("logger", .record [("file", .record [
        ("enabled", .bool true), ("path", .text "/var/log/\x7brun_name\x7d.log")])])]
    ∃ written settings p, launch.asWritten = .ok (.ok written) ∧ launch.load = .ok settings ∧
      settings.config.logRoot.text = "/home/me/.local/state/strictify/logs" ∧
      LogFile.opened launch.disk launch.host.directory written.config.logger.file
        written.config.logRoot LogFile.runName = .ok (some p) ∧
      LogFile.path settings.config.logger.file.path settings.config.logRoot LogFile.runName =
        .ok p := by
  intro launch
  let parts : List LogFile.Part :=
    [.text "/var/log/".toList (by decide), .run, .text ".log".toList (by decide)]
  have good : ∃ written ∈ launch.written?,
      written.config.logger.file.sink.enabled = true ∧
      written.config.logger.file.path.toList = LogFile.written parts ∧
      Shut written.config.logRoot.text.toList ∧
      ∀ name ∈ (Tree.path written.config.logRoot).names,
        resolve? launch.host (.ofSettings launch.mayCheck written) name ≠ .ok none := by
    decide +kernel
  have done : ∃ settings ∈ launch.load.toOption,
      settings.config.logRoot.text = "/home/me/.local/state/strictify/logs" := by decide +kernel
  obtain ⟨written, read, enabled, pattern, shut, resolvable⟩ := good
  obtain ⟨settings, loaded, root⟩ := done
  rw [mem_written?_iff] at read
  rw [Include.mem_toOption_iff] at loaded
  obtain ⟨entries, sources, readEntries⟩ := Reference.bind_eq_ok_iff.mp read
  obtain ⟨p, opens, named⟩ := (load_logFile sources (keys_of_readSettings readEntries)
    (config_of_readSettings readEntries).1 rfl enabled pattern).2 written settings read loaded shut
      resolvable
  have apart : LogFile.Part.root ∉ parts := by simp [parts]
  exact ⟨written, settings, p, read, loaded, root, opens,
    (named.mpr fun uses => absurd uses apart).1⟩

/-- A log root with a reference: the file that is opened has it in its name, and the
loaded settings name another one. -/
theorem load_unexpanded :
    let launch := ofConfig [
      ("log_root", .text "\x7bplatformdirs.user_state_dir\x7d/logs"),
      ("logger", .record [("console", .record [("enabled", .bool false)]),
        ("file", .record [("enabled", .bool true),
          ("format_template", .text "\x7blevel\x7d:\x7bmessage\x7d")])])]
    ∃ written settings p other, launch.asWritten = .ok (.ok written) ∧
      launch.load = .ok settings ∧
      LogFile.opened launch.disk launch.host.directory written.config.logger.file
        written.config.logRoot LogFile.runName = .ok (some p) ∧
      p.text = "\x7bplatformdirs.user_state_dir\x7d/logs/check/strictify.log" ∧
      LogFile.path settings.config.logger.file.path settings.config.logRoot LogFile.runName =
        .ok other ∧
      other.text = "/home/me/.local/state/strictify/logs/check/strictify.log" := by
  intro launch
  have good : ∃ written ∈ launch.written?, ∃ p ∈ (LogFile.opened launch.disk
      launch.host.directory written.config.logger.file written.config.logRoot
        LogFile.runName).toOption.join,
      p.text = "\x7bplatformdirs.user_state_dir\x7d/logs/check/strictify.log" := by decide +kernel
  have done : ∃ settings ∈ launch.load.toOption, ∃ other ∈ (LogFile.path
      settings.config.logger.file.path settings.config.logRoot LogFile.runName).toOption,
      other.text = "/home/me/.local/state/strictify/logs/check/strictify.log" := by decide +kernel
  obtain ⟨written, read, p, opens, one⟩ := good
  obtain ⟨settings, loaded, other, named, two⟩ := done
  rw [Include.mem_toOption_iff] at loaded named
  exact ⟨written, settings, p, other, mem_written?_iff.mp read, loaded,
    Include.mem_toOption_iff.mp (Option.join_eq_some_iff.mp opens), one, named, two⟩

end Launch

end Ratchet
