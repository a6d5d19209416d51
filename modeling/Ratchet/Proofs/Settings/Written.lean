import Ratchet.Proofs.Settings.Config

namespace Ratchet

/-!
# Settings as written

What has to hold for settings to be read: the names at their root are texts, the
configuration among them is read, and its log file can be opened.  That happens
while the configuration is read, before any reference is replaced.
-/

open Mapping

namespace Mapping

theorem keys_put {key : Scalar} {value other : Value} {entries : Mapping}
    (there : get? key entries = some other) : keys (put key value entries) = keys entries := by
  rw [keys, keys]
  induction entries with
  | nil => cases there
  | cons entry rest ih =>
    rw [get?] at there
    rw [put]
    split at there
    · next same => rw [if_pos same, List.map_cons, List.map_cons]
    · next apart => rw [if_neg apart, List.map_cons, List.map_cons, ih there]

end Mapping

namespace Launch

open Config Conversion Checked

variable {launch : Launch} {entries : Mapping} {base : Settings} {value other : Value}

/-- A configuration stands once its log file can be opened. -/
theorem opened_eq_ok_iff {host : Host} {disk : Disk} {config own : Config} :
    opened host disk config = .ok (.ok own) ↔ own = config ∧ (host.opensLogs = true → ∃ found,
      LogFile.opened disk host.directory config.logger.file config.logRoot LogFile.runName =
        .ok found) := by
  unfold opened
  split
  · next logging =>
    split
    · next found opens =>
      rw [opens]
      constructor
      · rintro ⟨⟩
        exact ⟨rfl, fun _ => ⟨found, rfl⟩⟩
      · rintro ⟨rfl, -⟩
        rfl
    · next fault fails =>
      rw [fails]
      split <;> simp [Checked.fail, logging]
  · next other =>
    constructor
    · rintro ⟨⟩
      exact ⟨rfl, fun logging => absurd logging other⟩
    · rintro ⟨rfl, -⟩
      rfl

/-- Whether the log file can be opened depends on where it is. -/
theorem opened_congr {host : Host} {disk : Disk} {config usual : Config}
    (same : SameLog config usual) (opens : opened host disk usual = .ok (.ok usual)) :
    opened host disk config = .ok (.ok config) := by
  obtain ⟨-, opens⟩ := opened_eq_ok_iff.mp opens
  refine opened_eq_ok_iff.mpr ⟨rfl, fun logging => ?_⟩
  obtain ⟨found, opens⟩ := opens logging
  exact ⟨found, by rw [← opens, LogFile.opened, LogFile.opened, same.root, same.enabled, same.path]⟩

/-- The names at the root of settings that are read are texts. -/
theorem keys_of_readSettings {read : Checked Settings}
    (done : launch.readSettings entries = .ok read) : ∀ key ∈ keys entries, ∃ s, key = .text s := by
  unfold readSettings at done
  split at done
  · cases done
  next texts =>
    intro key listed
    obtain ⟨entry, inside, rfl⟩ := List.mem_map.mp listed
    cases same : entry.1 with
    | text s => exact ⟨s, rfl⟩
    | null | bool | int | float | date | moment | bytes =>
      exact absurd (List.any_eq_true.mpr ⟨entry, inside, by rw [same]; rfl⟩) texts

theorem readSettings_eq (texts : ∀ key ∈ keys entries, ∃ s, key = .text s) :
    launch.readSettings entries =
      match readConfig launch.host launch.disk ((field? "config" entries).getD (.map [])) with
      | .error fault => .error (.logFile fault)
      | .ok config =>
        .ok (Settings.mk <$> config.inside (.field "config") <*>
          defaulted ["include"] none (nullable (list text)) entries <*>
          (if launch.mayCheck then
            defaulted [Outline.checkName] none (nullable Override.read) entries
          else .ok none)) := by
  unfold readSettings
  split
  · next some =>
    obtain ⟨entry, inside, other⟩ := List.any_eq_true.mp some
    obtain ⟨s, same⟩ := texts entry.1 (List.mem_map_of_mem inside)
    rw [same] at other
    cases other
  · rfl

/-- Settings that are read have a configuration that is read, with a log file that
can be opened. -/
theorem config_of_readSettings (done : launch.readSettings entries = .ok (.ok base)) :
    Config.read launch.host ((field? "config" entries).getD (.map [])) = .ok base.config ∧
      opened launch.host launch.disk base.config = .ok (.ok base.config) := by
  rw [readSettings_eq (keys_of_readSettings done)] at done
  unfold readConfig at done
  cases read : Config.read launch.host ((field? "config" entries).getD (.map [])) with
  | bad issues =>
    simp only [read, Except.ok.injEq, seq_eq_ok_iff, map_eq_ok_iff, inside_eq_ok_iff] at done
    obtain ⟨_, _, ⟨_, _, ⟨_, same, -⟩, -⟩, -⟩ := done
    cases same
  | ok config =>
    rw [read] at done
    dsimp only at done
    split at done
    · cases done
    next result opens =>
      simp only [Except.ok.injEq, seq_eq_ok_iff, map_eq_ok_iff, inside_eq_ok_iff] at done
      obtain ⟨_, _, ⟨_, _, ⟨_, rfl, rfl⟩, -, rfl⟩, -, rfl⟩ := done
      obtain ⟨rfl, -⟩ := opened_eq_ok_iff.mp opens
      exact ⟨rfl, opens⟩

/-- The configuration is read on its own, whatever the rest of the settings is. -/
theorem readSettings_of_config (there : field? "config" entries = some value)
    (others : launch.readSettings (put (.text "config") other entries) = .ok (.ok base)) :
    Config.read launch.host other = .ok base.config ∧
      (∀ config, Config.read launch.host value = .ok config → SameLog config base.config →
        launch.readSettings entries = .ok (.ok { base with config })) ∧
      ∀ issues, Config.read launch.host value = .bad issues →
        launch.readSettings entries = .ok ((Checked.bad issues).inside (.field "config")) := by
  have kept {α : Type} {name : String} {usual : α} {read : Value → Checked α}
      (apart : "config" ≠ name) :
      defaulted [name] usual read (put (.text "config") other entries) =
        defaulted [name] usual read entries :=
    defaulted_congr (List.forall_mem_singleton.mpr (field?_put_of_ne apart other entries))
  obtain ⟨readBase, opens⟩ := config_of_readSettings others
  rw [field?_put_self] at readBase
  have texts := keys_of_readSettings others
  rw [readSettings_eq texts, field?_put_self, kept (by decide), kept (by decide)] at others
  rw [keys_put there] at texts
  rw [readSettings_eq texts, there]
  unfold readConfig at others ⊢
  dsimp only [Option.getD_some] at others readBase ⊢
  rw [readBase] at others
  dsimp only at others
  rw [opens] at others
  simp only [Except.ok.injEq, seq_eq_ok_iff, map_eq_ok_iff] at others
  obtain ⟨_, check, ⟨_, includes, ⟨_, -, rfl⟩, readIncludes, rfl⟩, readCheck, rfl⟩ := others
  refine ⟨readBase, fun own readOwn sameLog => ?_, fun issues bad => ?_⟩
  · rw [readOwn]
    dsimp only
    rw [opened_congr sameLog opens, readIncludes, readCheck]
    rfl
  · rw [bad, readIncludes, readCheck]
    rfl

end Launch

end Ratchet
