import Ratchet.Change.Status
import Ratchet.Check.Report
import Ratchet.Check.Request
import Ratchet.Check.State
import Ratchet.Settings.Conversion

namespace Ratchet

/-!
# Documents about checks

Reading the things a check deals with from documents: revisions, statuses,
events, reports, requests and the state of a check.
-/

open Conversion

namespace Revision

/-- A revision as a record with its name. -/
def read : Value → Checked Revision :=
  record "Revision" fun entries =>
    (required ["sha"] Conversion.text entries).andThen fun s =>
      match ofText? s with
      | some revision => .ok revision
      | none => .bad [⟨.stated "revision must not be empty", [.field "sha"]⟩]

end Revision

namespace Status

/-- A status as a record of three lists, each of which may be left out. -/
def read : Value → Checked Status :=
  record "WorkingTreeStatus" fun entries =>
    Status.mk <$> defaulted ["created"] [] (list Conversion.text) entries <*>
      defaulted ["modified"] [] (list Conversion.text) entries <*>
      defaulted ["untracked"] [] (list Conversion.text) entries

end Status

namespace Strictness

/-- The names of a switch. -/
def names (toggle : Toggle) : List String := [toggle.flag, toggle.field]

/-- The switches as a record in which nothing but switches may occur. -/
def read : Value → Checked Strictness :=
  record "StrictnessOptions" fun entries =>
    let values := Toggle.all.foldr (fun toggle rest =>
      List.cons <$> ((fun on => (toggle, on)) <$> defaulted (names toggle) true boolean entries) <*>
        rest) (.ok [])
    (fun values _ => ⟨fun toggle => (values.lookup toggle).getD true⟩) <$> values <*>
      nothingElse (Toggle.all.map names) entries

end Strictness

namespace Event

/-- The fields of an event of a kind. -/
def readFields (kind : Kind) (entries : Mapping) : Checked Event :=
  match kind with
  | .foundSinceRevision =>
    since <$> required ["revision"] (nullable Revision.read) entries
  | .foundChangedFiles => changed <$> required ["files"] (list Conversion.text) entries
  | .examineFile => examine <$> required ["file"] Conversion.text entries
  | .checkFile =>
    verdict <$> required ["file"] Conversion.text entries <*>
      required ["has_diagnostics"] boolean entries <*>
      defaulted ["diagnostics"] [] (list Conversion.text) entries

/-- The name under which an event states its kind. -/
def tag : String := "kind"

/-- An event, told apart by its kind. -/
def read (v : Value) : Checked Event :=
  match v with
  | .map entries =>
    match Mapping.field? tag entries with
    | none => .fail (.noTag tag)
    | some found =>
      let kind : Option Kind := match found with
        | .scalar (.text name) => Kind.named? name
        | _ => none
      match kind with
      | some kind => (readFields kind entries).inside (.field kind.name)
      | none => .fail (.unknownTag tag found.inText (Kind.all.map Kind.name))
  | _ => .fail .attributes

end Event

namespace Report

def readOutcome : Value → Checked Outcome :=
  record "Outcome" fun entries => Outcome.mk <$> defaulted ["error_count"] 0 integer entries

def read : Value → Checked Report :=
  record "StrictifyReport" fun entries =>
    Report.mk <$> required ["outcome"] readOutcome entries <*>
      defaulted ["events"] [] (list Event.read) entries

end Report

namespace Request

def read : Value → Checked Request :=
  record "StrictifyRequest" fun entries =>
    Request.mk <$> defaulted ["options"] .full Strictness.read entries <*>
      required ["target_branch"] Conversion.text entries <*>
      defaulted ["ignore_branches"] [] (list Conversion.text) entries <*>
      defaulted ["match_mode"] .substring Conversion.matchMode entries

end Request

namespace Check.State

def read : Value → Checked Check.State :=
  record "CheckState" fun entries =>
    Check.State.mk <$> defaulted ["since_revision"] none (nullable Revision.read) entries <*>
      defaulted ["exclusions"] [] (set Conversion.text) entries <*>
      defaulted ["changed_files"] [] (list Conversion.text) entries <*>
      defaulted ["included_files"] [] (list Conversion.text) entries <*>
      defaulted ["diagnostic_lines"] [] (list Conversion.text) entries <*>
      defaulted ["error_count"] 0 integer entries <*>
      defaulted ["events"] [] (list Event.read) entries <*>
      defaulted ["status"] "pending" Conversion.text entries

end Check.State

end Ratchet
