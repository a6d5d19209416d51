import Mathlib.Data.List.Basic
import Ratchet.Proofs.Change.Commands
import Ratchet.Proofs.Change.NameList
import Ratchet.Proofs.Change.Status

namespace Ratchet

/-!
# The changed files of a supported kind

Which files count as changed is said by two questions, and the answers are put
one behind the other: the paths of the status by their lists, and then the
committed ones.  Repetitions are removed from each answer by itself, and then
from both together.  That comes to the same as removing them once, and nothing
changes if other kinds of files are left out first.  So the order of the files
is that of their first places.

The kind of a file is read off the end of its path, where a newline is
overlooked.  Git names paths with anything but a NUL in them, so there are paths
that end in a newline, and they count as sources if what stands before it does.
-/

namespace Extension

/-- A path that ends in one of the two endings. -/
def IsSource (path : String) : Prop :=
  ".ts".toList <:+ path.toList ∨ ".tsx".toList <:+ path.toList

theorem endsSupported_iff {cs : List Char} :
    endsSupported cs = true ↔ ".ts".toList <:+ cs ∨ ".tsx".toList <:+ cs := by
  rw [endsSupported, supported, List.any_cons, List.any_cons, List.any_nil, Bool.or_false,
    Bool.or_eq_true, List.isSuffixOf_iff_suffix, List.isSuffixOf_iff_suffix]

/-- A path that ends in a newline ends in none of the endings. -/
theorem not_isSource_newline (name : String) : ¬ IsSource (name ++ "\n") := by
  have apart {ending : List Char} {c : Char} (ends : ending.getLast? = some c)
      (other : c ≠ '\n') : ¬ ending <:+ (name ++ "\n").toList := by
    rintro ⟨before, whole⟩
    have last := congrArg List.getLast? whole
    rw [List.getLast?_append, ends, String.toList_append] at last
    have newline : (name.toList ++ "\n".toList).getLast? = some '\n' := by simp
    rw [newline] at last
    exact other (Option.some.inj last)
  rintro (ends | ends)
  · exact apart (c := 's') rfl (by decide) ends
  · exact apart (c := 'x') rfl (by decide) ends

/-- The files that are checked are the sources, and those that are sources but
for a newline behind the ending. -/
theorem isSupported_iff {path : String} :
    isSupported path = true ↔ IsSource path ∨ ∃ name, IsSource name ∧ path = name ++ "\n" := by
  rw [isSupported, Bool.or_eq_true, Bool.and_eq_true, beq_iff_eq, endsSupported_iff,
    endsSupported_iff]
  constructor
  · rintro (source | ⟨last, source⟩)
    · exact Or.inl source
    · refine Or.inr ⟨String.ofList path.toList.dropLast, ?_, ?_⟩
      · rw [IsSource, String.toList_ofList (l := path.toList.dropLast)]
        exact source
      · rcases List.getLast?_eq_some_iff.mp last with ⟨before, whole⟩
        apply String.toList_injective
        rw [String.toList_append, String.toList_ofList (l := path.toList.dropLast), whole,
          List.dropLast_concat]
        rfl
  · rintro (source | ⟨name, source, rfl⟩)
    · exact Or.inl source
    · have cut : (name ++ "\n").toList.dropLast = name.toList := by simp
      refine Or.inr ⟨by simp, ?_⟩
      rw [cut]
      exact source

end Extension

namespace Discovery

/-! ## First places -/

theorem idxOf_head_lt_iff (p q : String) (rest : List String) :
    (p :: rest).idxOf p < (p :: rest).idxOf q ↔ q ≠ p := by
  rw [List.idxOf_cons_self]
  by_cases same : q = p
  · simp [same]
  · simp [List.idxOf_cons_ne rest (Ne.symm same), same]

theorem idxOf_cons_lt_iff {first p q : String} (rest : List String) (apart : first ≠ p)
    (other : first ≠ q) :
    (first :: rest).idxOf p < (first :: rest).idxOf q ↔ rest.idxOf p < rest.idxOf q := by
  rw [List.idxOf_cons_ne rest apart, List.idxOf_cons_ne rest other]
  exact Nat.succ_lt_succ_iff

/-- Leaving out other paths keeps the order of two. -/
theorem idxOf_filter_lt_iff {keep : String → Bool} {p q : String} (kept : keep p = true)
    (otherKept : keep q = true) (paths : List String) :
    (paths.filter keep).idxOf p < (paths.filter keep).idxOf q ↔ paths.idxOf p < paths.idxOf q := by
  induction paths with
  | nil => rfl
  | cons path rest ih =>
    by_cases first : path = p
    · subst first
      rw [List.filter_cons_of_pos kept, idxOf_head_lt_iff, idxOf_head_lt_iff]
    · by_cases second : path = q
      · subst second
        simp [List.filter_cons_of_pos otherKept]
      · rw [idxOf_cons_lt_iff rest first second, ← ih]
        cases keptToo : keep path with
        | true => rw [List.filter_cons_of_pos keptToo, idxOf_cons_lt_iff _ first second]
        | false => rw [List.filter_cons_of_neg (Bool.eq_false_iff.mp keptToo)]

/-- Removing repetitions keeps the order of first places. -/
theorem idxOf_firsts_lt_iff (p q : String) (paths : List String) :
    (firsts paths).idxOf p < (firsts paths).idxOf q ↔ paths.idxOf p < paths.idxOf q := by
  induction paths with
  | nil => rfl
  | cons path rest ih =>
    rw [firsts]
    by_cases first : path = p
    · subst first
      rw [idxOf_head_lt_iff, idxOf_head_lt_iff]
    · by_cases second : path = q
      · subst second
        simp
      · rw [idxOf_cons_lt_iff _ first second, idxOf_cons_lt_iff _ first second, ← ih]
        apply idxOf_filter_lt_iff
        · exact bne_iff_ne.mpr (Ne.symm first)
        · exact bne_iff_ne.mpr (Ne.symm second)

/-! ## What counts as changed -/

section Found

variable (vcs : Vcs) (base : Option Revision)

/-- The paths that the answers name, in the order in which they are put
together. -/
def found : List String :=
  vcs.status.paths ++ vcs.differing base head

theorem mem_collectChangeSet_iff {path : String} :
    path ∈ (collectChangeSet vcs base).value ↔
      path ∈ found vcs base ∧ Extension.isSupported path = true := by
  rw [value_collectChangeSet, Vcs.changedSince_eq_firsts, mem_firsts, List.mem_filter]
  rfl

/-- What counts as changed are the sources among the paths of both answers, and
those that would be sources but for a newline at their end.  So there are only
sources in it exactly if there is no such path in the answers, and in any case all
the sources are in it. -/
theorem collectChangeSet_sources_iff :
    (∀ path, path ∈ (collectChangeSet vcs base).value ↔
      path ∈ found vcs base ∧
        (Extension.IsSource path ∨
          ∃ name, Extension.IsSource name ∧ path = name ++ "\n")) ∧
    ((∀ path ∈ (collectChangeSet vcs base).value, Extension.IsSource path) ↔
      ∀ name, Extension.IsSource name → name ++ "\n" ∉ found vcs base) ∧
    ∀ path ∈ found vcs base, Extension.IsSource path →
      path ∈ (collectChangeSet vcs base).value := by
  have collected (path : String) : path ∈ (collectChangeSet vcs base).value ↔
      path ∈ found vcs base ∧
        (Extension.IsSource path ∨
          ∃ name, Extension.IsSource name ∧ path = name ++ "\n") := by
    rw [mem_collectChangeSet_iff, Extension.isSupported_iff]
  refine ⟨collected, ⟨?_, ?_⟩, ?_⟩
  · intro sources name source listed
    have member := (collected (name ++ "\n")).mpr ⟨listed, Or.inr ⟨name, source, rfl⟩⟩
    exact Extension.not_isSource_newline name (sources _ member)
  · intro none path member
    rcases (collected path).mp member with ⟨listed, source | ⟨name, source, rfl⟩⟩
    · exact source
    · exact absurd listed (none name source)
  · intro path listed source
    exact (collected path).mpr ⟨listed, Or.inl source⟩

end Found

/-- The working tree has a file whose name ends in a newline. -/
theorem collectChangeSet_newline :
    let setup : Git.Setup := ⟨Path.ofText ".", [], none⟩
    let shell : Shell := fun _ => ⟨"?? a.ts\n\x00", "", 0, false⟩
    (collectChangeSet (setup.vcs shell) none).value = ["a.ts\n"] ∧
      ¬ Extension.IsSource "a.ts\n" := by
  intro setup shell
  exact ⟨by decide +kernel, Extension.not_isSource_newline "a.ts"⟩

end Discovery

namespace Git.Setup

/-! ## What the commands tell -/

/-- The command for a question ends well, and writes a text. -/
def Writes (setup : Setup) (shell : Shell) (question : Query) (written : String) : Prop :=
  ∃ command, setup.commandFor question = .ok command ∧
    (setup.ending shell command).exited = 0 ∧ (setup.ending shell command).stdout = written

variable {setup : Setup} {shell : Shell}

theorem status_of_writes {entries : List Status.Entry}
    (wellFormed : ∀ entry ∈ entries, entry.WellFormed)
    (writes : setup.Writes shell .workingTree (Status.Entry.output entries)) :
    (setup.vcs shell).status = Status.ofEntries entries := by
  rcases writes with ⟨command, asks, ends, wrote⟩
  have read : readStatus command (setup.ending shell command) =
      .ok (Status.ofEntries entries) := by
    rw [readStatus, ends, wrote, Status.Entry.parse_output wellFormed]
    rfl
  rw [status_vcs, asks]
  simp only [Except.toOption, Option.bind_some, read, Option.getD_some]

theorem differing_of_writes {base : Revision} {head : String} {names : List String}
    (apart : ∀ name ∈ names, '\x00' ∉ name.toList)
    (visible : ∀ name ∈ names, Text.isBlank name = false)
    (writes : setup.Writes shell (.diff base head) (NameList.terminated '\x00' names)) :
    (setup.vcs shell).differing (some base) head = names := by
  rcases writes with ⟨command, asks, ends, wrote⟩
  have read : readNames command (setup.ending shell command) = .ok names := by
    rw [readNames, ends, wrote, NameList.parse_terminated visible apart]
    rfl
  rw [differing_vcs, asks]
  simp only [Except.toOption, Option.bind_some, read, Option.getD_some]

end Git.Setup

namespace Discovery

/-- The paths of entries and the committed ones, in the order of discovery:
created, modified, untracked and committed. -/
def discovered (entries : List Status.Entry) (committed : List String) : List String :=
  (entries.filter (·.code.creates)).map Status.Entry.name ++
    (entries.filter (·.code.modifies)).map Status.Entry.name ++
    (entries.filter (·.code.isUntracked)).map Status.Entry.name ++ committed

/-- What counts as changed, where both commands end well and write what they are
asked for.  Each path of a supported kind is there once, just as it was written,
and the paths are in the order of their first places.  It makes no difference
whether repetitions are removed first or the other kinds of files left out. -/
theorem collectChangeSet_ordered (setup : Git.Setup) (shell : Shell) (base : Revision)
    (entries : List Status.Entry) (committed : List String)
    (wellFormed : ∀ entry ∈ entries, entry.WellFormed)
    (apart : ∀ name ∈ committed, '\x00' ∉ name.toList)
    (visible : ∀ name ∈ committed, Text.isBlank name = false)
    (status : setup.Writes shell .workingTree (Status.Entry.output entries))
    (names : setup.Writes shell (.diff base head) (NameList.terminated '\x00' committed)) :
    let paths := discovered entries committed
    let changes := (collectChangeSet (setup.vcs shell) (some base)).value
    changes.Nodup ∧
    (∀ path, path ∈ changes ↔ path ∈ paths ∧ Extension.isSupported path = true) ∧
    (∀ p ∈ changes, ∀ q ∈ changes,
      changes.idxOf p < changes.idxOf q ↔ paths.idxOf p < paths.idxOf q) ∧
    changes = paths.eraseDups.filter Extension.isSupported ∧
    changes = (paths.filter Extension.isSupported).eraseDups := by
  intro paths changes
  have listed : found (setup.vcs shell) (some base) = paths := by
    rw [found, Git.Setup.status_of_writes wellFormed status,
      Git.Setup.differing_of_writes apart visible names, Status.ofEntries_of_wellFormed wellFormed]
    rfl
  have filteredFirst : changes = firsts (paths.filter Extension.isSupported) := by
    rw [← listed]
    exact (value_collectChangeSet _ _).trans (Vcs.changedSince_eq_firsts _ _)
  have filteredLast : changes = (firsts paths).filter Extension.isSupported :=
    filteredFirst.trans (filter_firsts _ _).symm
  have collected (path : String) :
      path ∈ changes ↔ path ∈ paths ∧ Extension.isSupported path = true := by
    rw [← listed]
    exact mem_collectChangeSet_iff _ _
  refine ⟨?_, collected, ?_, ?_, ?_⟩
  · rw [filteredFirst]
    exact nodup_firsts _
  · intro p member q otherMember
    have supported := ((collected p).mp member).2
    have otherSupported := ((collected q).mp otherMember).2
    rw [filteredFirst, idxOf_firsts_lt_iff, idxOf_filter_lt_iff supported otherSupported]
  · rw [← firsts_eq_eraseDups]
    exact filteredLast
  · rw [← firsts_eq_eraseDups]
    exact filteredFirst

/-- There are paths with newlines, quotes and blanks at their ends, and one path
is moved, changed and committed. -/
theorem collectChangeSet_ordered_sample :
    let setup : Git.Setup := ⟨Path.ofText "/srv/my app", [], some 30⟩
    let base : Revision := ⟨"a1", by decide, by decide +kernel⟩
    let entries : List Status.Entry :=
      [.plain ⟨'?', '?'⟩ " a\n\"b\".tsx".toList, .move ⟨'R', 'M'⟩ "it's.ts".toList "?? x.ts".toList,
        .plain ⟨'M', ' '⟩ "notes.md".toList, .plain ⟨'A', 'M'⟩ "c.ts".toList]
    let committed := ["\nd.ts", "c.ts", "style.css", "e .ts", "it's.ts"]
    let shell : Shell := fun text =>
      if Text.contains text " && git status" then
        ⟨"??  a\n\"b\".tsx\x00RM it's.ts\x00?? x.ts\x00M  notes.md\x00AM c.ts\x00", "", 0, false⟩
      else ⟨"\nd.ts\x00c.ts\x00style.css\x00e .ts\x00it's.ts\x00", "", 0, false⟩
    (∀ entry ∈ entries, entry.WellFormed) ∧
      (∀ name ∈ committed, '\x00' ∉ name.toList ∧ Text.isBlank name = false) ∧
      setup.Writes shell .workingTree (Status.Entry.output entries) ∧
      setup.Writes shell (.diff base head) (NameList.terminated '\x00' committed) ∧
      (collectChangeSet (setup.vcs shell) (some base)).value =
        ["it's.ts", "c.ts", " a\n\"b\".tsx", "\nd.ts", "e .ts"] := by
  intro setup base entries committed shell
  have wellFormed : ∀ entry ∈ entries, entry.WellFormed := by decide
  have apart : ∀ name ∈ committed, '\x00' ∉ name.toList := by decide
  have visible : ∀ name ∈ committed, Text.isBlank name = false := by decide
  have status : setup.Writes shell .workingTree (Status.Entry.output entries) :=
    ⟨_, setup.commandFor_usual rfl .workingTree, by decide +kernel, by decide +kernel⟩
  have names : setup.Writes shell (.diff base head) (NameList.terminated '\x00' committed) :=
    ⟨_, setup.commandFor_usual rfl (.diff base head), by decide +kernel, by decide +kernel⟩
  rcases collectChangeSet_ordered setup shell base entries committed wellFormed apart visible
    status names with ⟨_, _, _, _, changed⟩
  refine ⟨wellFormed, fun name member => ⟨apart name member, visible name member⟩, status, names,
    changed.trans ?_⟩
  decide +kernel

end Discovery

end Ratchet
