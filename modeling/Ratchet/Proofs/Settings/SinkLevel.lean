import Ratchet.Proofs.Settings.Config

namespace Ratchet

/-!
# The level of a sink

A level may be set in three places: for a sink, for the logger that the sink
belongs to, and for the whole configuration.  What reading makes of that goes
through several hands.  The configuration's level is handed to a logger section
without one, a logger that is not written at all is made with it, each logger
hands its level to the sinks without one, and at last a logger of another level is
installed over the same sinks.  Still the nearest level that is set decides, and
nothing that is set nearer is ever overridden.
-/

namespace Config

open Conversion Checked

/-! ## Levels as they are written -/

/-- The entries of a section, which has none if it is not there. -/
def sectionOf (name : String) (entries : Mapping) : Mapping :=
  match Mapping.field? name entries with
  | some (.map inner) => inner
  | _ => []

/-- The level under the first of some names that is there. -/
def levelUnder? (names : List String) (entries : Mapping) : Option String :=
  (lookup? names entries).bind fun found => (Conversion.text found.2).toOption

/-- The sinks of a logger. -/
inductive Output where
  | console
  | file
  deriving DecidableEq

namespace Output

def name : Output → String
  | console => "console"
  | file => "file"

/-- The sink of a logger for an output. -/
def sink (logger : Logger) : Output → Sink
  | console => logger.console.sink
  | file => logger.file.sink

/-- The level that a logger section sets for an output. -/
def levelIn? (output : Output) (logger : Mapping) : Option String :=
  (levelUnder? ["level"] (sectionOf output.name logger)).or (levelUnder? ["level"] logger)

/-- The nearest level that is set for an output: its own, or its logger's, or the
configuration's, for which the first name counts. -/
def level? (output : Output) (entries : Mapping) : Option String :=
  (output.levelIn? (sectionOf "logger" entries)).or (levelUnder? levelNames entries)

end Output

/-- The number that a span has to reach to be written by a sink. -/
def Sink.threshold (sink : Sink) : Int :=
  (Level.ofName (sink.level.getD "info")).severity

/-! ## Levels as they are read -/

variable {host : Host} {entries logger inner : Mapping} {config : Config} {names : List String}
  {usual level : String}

theorem sectionOf_of_field? {name : String} (there : Mapping.field? name entries = some (.map inner)) :
    sectionOf name entries = inner := by
  rw [sectionOf, there]

theorem sectionOf_congr {name : String} {other : Mapping}
    (same : Mapping.field? name entries = Mapping.field? name other) :
    sectionOf name entries = sectionOf name other := by
  rw [sectionOf, same, sectionOf]

theorem levelUnder?_congr {other : Mapping}
    (same : ∀ name ∈ names, Mapping.field? name entries = Mapping.field? name other) :
    levelUnder? names entries = levelUnder? names other := by
  rw [levelUnder?, lookup?_congr same, levelUnder?]

/-- A level that must be a text is the one that is set. -/
theorem level_of_read (read : defaulted names usual Conversion.text entries = .ok level) :
    level = (levelUnder? names entries).getD usual := by
  rw [defaulted] at read
  rw [levelUnder?]
  cases found : lookup? names entries with
  | none =>
    rw [found] at read
    cases read
    rfl
  | some pair =>
    rw [found] at read
    rw [Option.bind_some, inside_eq_ok_iff.mp read]
    rfl

/-- A level that may be left open is the one that is set. -/
theorem level?_of_read {own : Option String}
    (read : defaulted names none (nullable Conversion.text) entries = .ok own) :
    own = levelUnder? names entries := by
  rw [defaulted] at read
  rw [levelUnder?]
  cases found : lookup? names entries with
  | none =>
    rw [found] at read
    cases read
    rfl
  | some pair =>
    rw [found] at read
    rw [Option.bind_some]
    have read := inside_eq_ok_iff.mp read
    unfold nullable at read
    split at read
    · next null =>
      cases read
      rw [null]
      rfl
    · next other _ =>
      rcases map_eq_ok_iff.mp read with ⟨level, isText, rfl⟩
      rw [isText]
      rfl

theorem level_of_readSink {base own : Sink} (unset : base.level = none)
    (read : readSink base entries = .ok own) : own.level = levelUnder? ["level"] entries := by
  simp only [readSink, seq_eq_ok_iff, map_eq_ok_iff] at read
  rcases read with ⟨_, _, ⟨_, _, ⟨_, level, ⟨_, -, rfl⟩, readLevel, rfl⟩, -, rfl⟩, -, rfl⟩
  rw [unset] at readLevel
  exact level?_of_read readLevel

/-- A sink that is read has the level that its section sets, if that is there. -/
theorem level_of_section {α : Type} (sink : α → Sink) {name : String} {base own : α}
    {read : Value → Checked α} (unset : (sink base).level = none)
    (each : ∀ v own, read v = .ok own → ∃ inner, v = .map inner ∧
      (sink own).level = levelUnder? ["level"] inner)
    (found : defaulted [name] base read logger = .ok own) :
    (sink own).level = levelUnder? ["level"] (sectionOf name logger) := by
  rw [defaulted, lookup?, List.findSome?_cons] at found
  rw [sectionOf]
  cases there : Mapping.field? name logger with
  | none =>
    rw [there] at found
    cases found
    rw [unset]
    rfl
  | some v =>
    rw [there] at found
    rcases each v own (inside_eq_ok_iff.mp found) with ⟨inner, rfl, level⟩
    exact level

theorem level_of_readConsole {v : Value} {own : Console} (read : readConsole v = .ok own) :
    ∃ inner, v = .map inner ∧ own.sink.level = levelUnder? ["level"] inner := by
  unfold readConsole record at read
  split at read
  · next inner =>
    simp only [seq_eq_ok_iff, map_eq_ok_iff] at read
    rcases read with ⟨_, _, ⟨_, _, ⟨sink, readSink, rfl⟩, -, rfl⟩, -, rfl⟩
    exact ⟨inner, rfl, level_of_readSink rfl readSink⟩
  · cases read

theorem level_of_readLogFile {v : Value} {own : LogFile} (read : readLogFile v = .ok own) :
    ∃ inner, v = .map inner ∧ own.sink.level = levelUnder? ["level"] inner := by
  unfold readLogFile record at read
  split at read
  · next inner =>
    simp only [seq_eq_ok_iff, map_eq_ok_iff] at read
    rcases read with ⟨_, _, ⟨sink, readSink, rfl⟩, -, rfl⟩
    exact ⟨inner, rfl, level_of_readSink rfl readSink⟩
  · cases read

/-- A logger hands its level to the sinks without one. -/
theorem level_of_settled (l : Logger) (output : Output) :
    (output.sink l.settled).level = some ((output.sink l).level.getD l.level) := by
  cases output <;> rfl

/-- The sinks of a logger that is read have the levels that its section sets.  Its own
level is a text if it is there. -/
theorem level_of_readLogger {own : Logger} (read : readLogger (.map logger) = .ok own)
    (output : Output) :
    (output.sink own).level = some ((output.levelIn? logger).getD "info") ∧
      (Mapping.field? "level" logger ≠ none → levelUnder? ["level"] logger ≠ none) := by
  simp only [readLogger, record, seq_eq_ok_iff, map_eq_ok_iff] at read
  rcases read with ⟨_, file, ⟨_, console, ⟨level, readLevel, rfl⟩, readConsole, rfl⟩, readFile, rfl⟩
  constructor
  · have ofOutput : (output.sink ⟨level, console, file⟩).level =
        levelUnder? ["level"] (sectionOf output.name logger) := by
      cases output with
      | console =>
        exact level_of_section Console.sink rfl (fun _ _ => level_of_readConsole) readConsole
      | file => exact level_of_section LogFile.sink rfl (fun _ _ => level_of_readLogFile) readFile
    rw [level_of_settled, ofOutput, level_of_read readLevel, Output.levelIn?, Option.getD_or]
  · intro there
    rcases Option.ne_none_iff_exists'.mp there with ⟨v, found⟩
    rw [defaulted_of_first found, inside_eq_ok_iff] at readLevel
    rw [levelUnder?, lookup?, List.findSome?_cons, found]
    simp [readLevel, Checked.toOption]

/-! ## Handing the level to the logger -/

theorem eq_empty_of_isEmpty {v : Value} {s : String} (isText : Conversion.text v = .ok s)
    (empty : v.isEmpty = true) : s = "" := by
  unfold Conversion.text at isText
  split at isText
  · cases isText
    exact eq_of_beq empty
  · next octets =>
    have none : octets = [] := List.isEmpty_iff.mp empty
    subst none
    split at isText
    · next s' read =>
      cases isText
      have blank : ofOctets? [] = some "" := by rfl
      exact Option.some.inj (read.symm.trans blank)
    · cases isText
  · cases isText

/-- A level that is not handed on is not set, or its name is empty. -/
theorem ofName_of_unstated (unstated : statedLevel? entries = none) :
    Level.ofName ((levelUnder? levelNames entries).getD "info") = .info := by
  rw [statedLevel?] at unstated
  rw [levelUnder?]
  cases found : lookup? levelNames entries with
  | none => decide +kernel
  | some pair =>
    rw [found] at unstated
    have empty : pair.2.isEmpty = true := by
      by_contra filled
      simp [filled] at unstated
    rw [Option.bind_some]
    cases isText : Conversion.text pair.2 with
    | bad issues =>
      show Level.ofName "info" = .info
      decide +kernel
    | ok s =>
      rw [eq_empty_of_isEmpty isText empty]
      show Level.ofName "" = .info
      decide +kernel

theorem levelUnder?_of_stated {v : Value} (stated : statedLevel? entries = some v) :
    levelUnder? levelNames entries = (Conversion.text v).toOption := by
  rw [statedLevel?] at stated
  rw [levelUnder?]
  cases found : lookup? levelNames entries with
  | none =>
    rw [found] at stated
    cases stated
  | some pair =>
    rw [found] at stated
    rcases Option.ite_none_left_eq_some.mp stated with ⟨-, same⟩
    cases same
    rfl

/-- The logger section keeps its level, or takes the one that is handed to it, or
there is none to be handed. -/
theorem handed_cases (there : Mapping.field? "logger" entries = some (.map logger)) :
    Mapping.field? "logger" (withLoggerLevel entries) = some (.map logger) ∧
        (Mapping.field? "level" logger ≠ none ∨ statedLevel? entries = none) ∨
      ∃ v, statedLevel? entries = some v ∧ Mapping.field? "level" logger = none ∧
        Mapping.field? "logger" (withLoggerLevel entries) =
          some (.map (Mapping.put (.text "level") v logger)) := by
  unfold withLoggerLevel
  rw [there]
  cases stated : statedLevel? entries with
  | none => exact Or.inl ⟨there, Or.inr rfl⟩
  | some v =>
    dsimp only
    split
    · next own => exact Or.inl ⟨there, Or.inl (Option.isSome_iff_ne_none.mp own)⟩
    · next own =>
      refine Or.inr ⟨v, rfl, by simpa using own, Mapping.field?_put_self _ _ _⟩

/-- The sinks of a logger that is read from the section with the level handed to it
have the nearest level that is set. -/
theorem ofName_of_handed {found : Option Logger}
    (there : Mapping.field? "logger" entries = some (.map logger))
    (read : defaulted ["logger"] none (fun v => some <$> readLogger v) (withLoggerLevel entries) =
      .ok found) (output : Output) :
    ∃ own level, found = some own ∧ (output.sink own).level = some level ∧
      Level.ofName level = Level.ofName ((output.level? entries).getD "info") := by
  rw [Output.level?, sectionOf_of_field? there]
  rcases handed_cases there with ⟨kept, reason⟩ | ⟨v, stated, unset, handed⟩
  · rw [defaulted_of_first kept, inside_eq_ok_iff, map_eq_ok_iff] at read
    rcases read with ⟨own, read, rfl⟩
    rcases level_of_readLogger read output with ⟨level, isText⟩
    refine ⟨own, _, rfl, level, ?_⟩
    cases set : output.levelIn? logger with
    | some level => rfl
    | none =>
      rw [Output.levelIn?, Option.or_eq_none_iff] at set
      have unstated := reason.resolve_left fun own => isText own set.2
      rw [Option.none_or, ofName_of_unstated unstated]
      decide +kernel
  · rw [defaulted_of_first handed, inside_eq_ok_iff, map_eq_ok_iff] at read
    rcases read with ⟨own, read, rfl⟩
    refine ⟨own, _, rfl, (level_of_readLogger read output).1, ?_⟩
    have apart : "level" ≠ output.name := by cases output <;> decide
    have free : levelUnder? ["level"] logger = none := by
      rw [levelUnder?, lookup?, List.findSome?_cons, unset]
      rfl
    have given : levelUnder? ["level"] (Mapping.put (.text "level") v logger) =
        (Conversion.text v).toOption := by
      rw [levelUnder?, lookup?, List.findSome?_cons, Mapping.field?_put_self]
      rfl
    rw [Output.levelIn?, Output.levelIn?, free, given, Option.or_none,
      sectionOf_congr (Mapping.field?_put_of_ne apart v logger), levelUnder?_of_stated stated]

/-- The sinks of a configuration's logger have the nearest level that is set. -/
theorem ofName_of_read (accepted : read host (.map entries) = .ok config) (output : Output) :
    ∃ level, (output.sink config.logger).level = some level ∧
      Level.ofName level = Level.ofName ((output.level? entries).getD "info") := by
  simp only [read, record, readFields, seq_eq_ok_iff, map_eq_ok_iff] at accepted
  rcases accepted with
    ⟨_, commands, ⟨_, root, ⟨_, level, ⟨_, compiler, ⟨_, git, ⟨logger, readLog, rfl⟩, -, rfl⟩, -,
      rfl⟩, readLevel, rfl⟩, -, rfl⟩, -, rfl⟩
  have same : levelUnder? levelNames (withLoggerLevel entries) = levelUnder? levelNames entries :=
    levelUnder?_congr fun name listed => field?_withLoggerLevel
      (fun logger => absurd (logger ▸ listed) (by decide)) entries
  have level := same ▸ level_of_read readLevel
  cases there : Mapping.field? "logger" entries with
  | none =>
    have unset : withLoggerLevel entries = entries := by
      unfold withLoggerLevel
      rw [there]
      cases statedLevel? entries <;> rfl
    rw [unset, defaulted, lookup?, List.findSome?_cons, there] at readLog
    cases readLog
    refine ⟨_, level_of_settled _ output, ?_⟩
    rw [Output.level?, sectionOf, there]
    cases output <;> exact congrArg Level.ofName level
  | some v =>
    cases v with
    | map inner =>
      rcases ofName_of_handed there readLog output with ⟨own, level, rfl, handed⟩
      exact ⟨level, handed⟩
    | scalar | list | set =>
      have kept : withLoggerLevel entries = entries := by
        unfold withLoggerLevel
        rw [there]
        cases statedLevel? entries <;> rfl
      rw [kept, defaulted_of_first there] at readLog
      cases readLog

/-- Installing a logger of another level over sinks that have one changes no sink. -/
theorem sink_installed {output : Output} (settled : (output.sink config.logger).level = some level) :
    output.sink config.installed = output.sink config.logger := by
  have kept {sink : Sink} (settled : sink.level = some level) :
      sink.inherit config.logLevel = sink := by
    rw [Sink.inherit, settled, Option.getD_some, ← settled]
  cases output <;> exact kept settled

/-- Every sink of the logger that a configuration installs writes from the nearest
level on that is set for it, from `info` on if none is, and that is what its file is
filtered by. -/
theorem installed_threshold (accepted : read host (.map entries) = .ok config) :
    (∀ output : Output, (output.sink config.installed).threshold =
        (Level.ofName ((output.level? entries).getD "info")).severity) ∧
      ∀ records, Ratchet.LogFile.text config.installed.file.sink records =
        Ratchet.LogFile.lines config.installed.file.sink
          ((records.map Ratchet.LogFile.span).filter
            (LevelFilter.reaches (Level.ofName ((Output.file.level? entries).getD "info")).severity)) := by
  have threshold (output : Output) : (output.sink config.installed).threshold =
      (Level.ofName ((output.level? entries).getD "info")).severity := by
    rcases ofName_of_read accepted output with ⟨level, settled, same⟩
    rw [sink_installed settled, Sink.threshold, settled, Option.getD_some, same]
  refine ⟨threshold, fun records => ?_⟩
  rw [← threshold .file]
  rfl

/-- The console has the level that is handed to the logger, which is that of the first
name; the file has its own, which is no level's name. -/
theorem installed_threshold_handed :
    let host : Host := { directory := .ofText "/srv/project", home := .ofText "/home/user" }
    let entries : Mapping := [(.text "log_level", .text "fatal"), (.text "log-level", .text "DEBUG"),
      (.text "logger", .map [(.text "file", .map [(.text "level", .text "")])])]
    ∃ config, read host (.map entries) = .ok config ∧
      config.installed.console.sink.threshold = Level.debug.severity ∧
      config.installed.file.sink.threshold = Level.info.severity := by
  intro host entries
  refine ⟨_, rfl, ?_⟩
  have threshold := (installed_threshold (rfl : read host (.map entries) = .ok _)).1
  have console : Level.ofName ((Output.console.level? entries).getD "info") = .debug := by
    decide +kernel
  have file : Level.ofName ((Output.file.level? entries).getD "info") = .info := by
    decide +kernel
  exact ⟨console ▸ threshold .console, file ▸ threshold .file⟩

end Config

end Ratchet
