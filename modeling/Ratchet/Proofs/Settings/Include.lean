import Mathlib.Data.Finset.Card
import Mathlib.Logic.Relation
import Ratchet.Settings.Include

namespace Ratchet

namespace Include

open Relation

/-!
# Loading along the includes

A document and what it includes form a graph, and loading one walks through
all that can be reached from it.  The walk remembers the documents on the way
to the present one and no others, so it meets a document of the way again
exactly if it runs into a cycle, wherever that cycle lies; a document that is
reached along two ways is loaded twice.  A way without repetitions is no longer
than there are documents, which bounds how deep one loading lies in another.
-/

variable {host : Host} {disk : Disk}

/-- The documents that a document includes, as far as it can be read. -/
def included (host : Host) (disk : Disk) (path : Path) : List Path :=
  match source disk path with
  | .ok found => found.includes.filterMap fun name => (target host path name).toOption
  | .error _ => []

/-- One document includes another. -/
def Includes (host : Host) (disk : Disk) (path next : Path) : Prop :=
  next ∈ included host disk path

/-- Documents that can be read and include nothing but one another. -/
def Closed (host : Host) (disk : Disk) (files : Finset Path) : Prop :=
  ∀ path ∈ files, ∃ found ∈ (source disk path).toOption, ∀ name ∈ found.includes,
    ∃ next ∈ (target host path name).toOption, next ∈ files

/-- A document can be reached and lies on a cycle. -/
def RunsInto (host : Host) (disk : Disk) (path looped : Path) : Prop :=
  ReflTransGen (Includes host disk) path looped ∧ TransGen (Includes host disk) looped looped

theorem mem_toOption_iff {ε α : Type} {result : Except ε α} {a : α} :
    a ∈ result.toOption ↔ result = .ok a := by
  cases result <;> simp [Except.toOption, eq_comm]

theorem includes_iff {path next : Path} {found : Source} (read : source disk path = .ok found) :
    Includes host disk path next ↔ ∃ name ∈ found.includes, target host path name = .ok next := by
  simp only [Includes, included, read, List.mem_filterMap, ← mem_toOption_iff, Option.mem_def]

/-! ## One document -/

theorem loadFrom_of_mem {chain : List Path} {path : Path} (met : path ∈ chain) :
    loadFrom host disk chain path = .error (.circular path) := by
  rw [loadFrom, dif_pos met]

theorem loadFrom_of_source_error {chain : List Path} {path : Path} {fault : Error}
    (fresh : path ∉ chain) (unread : source disk path = .error fault) :
    loadFrom host disk chain path = .error fault := by
  rw [loadFrom, dif_neg fresh]
  split
  · next other same =>
    cases unread.symm.trans same
    rfl
  · next found read =>
    cases unread.symm.trans read

/-- Merging results one by one is merging them as layers. -/
theorem foldlM_merge {α : Type} (load : α → Except Error Mapping) (names : List α)
    (start : Mapping) :
    names.foldlM (fun merged name => do return Mapping.merge merged (← load name)) start =
      (names.mapM load).map (·.foldl Mapping.merge start) := by
  induction names generalizing start with
  | nil => rfl
  | cons name rest ih =>
    rw [List.foldlM_cons, List.mapM_cons]
    cases load name with
    | error fault => rfl
    | ok inner =>
      refine (ih (Mapping.merge start inner)).trans ?_
      cases rest.mapM load <;> rfl

/-- A document's own entries lie over the layers that it includes. -/
theorem loadFrom_of_source {chain : List Path} {path : Path} {found : Source}
    (fresh : path ∉ chain) (read : source disk path = .ok found) :
    loadFrom host disk chain path =
      (found.includes.mapM fun name =>
        target host path name >>= loadFrom host disk (path :: chain)).map fun inner =>
          Mapping.merge (Mapping.layered inner) found.own := by
  have beneath := foldlM_merge
    (fun name => target host path name >>= loadFrom host disk (path :: chain)) found.includes []
  simp only [bind_assoc] at beneath
  rw [loadFrom, dif_neg fresh]
  split
  · next fault unread =>
    rw [read] at unread
    cases unread
  · next other same =>
    cases read.symm.trans same
    rw [beneath]
    cases found.includes.mapM fun name =>
      target host path name >>= loadFrom host disk (path :: chain) <;> rfl

/-! ## All documents -/

theorem mapM_cons_eq_ok_iff {α β ε : Type} {load : α → Except ε β} {name : α} {rest : List α}
    {all : List β} :
    (name :: rest).mapM load = .ok all ↔
      ∃ first others, load name = .ok first ∧ rest.mapM load = .ok others ∧
        first :: others = all := by
  rw [List.mapM_cons]
  cases load name with
  | error fault => simp [bind, Except.bind]
  | ok first => cases rest.mapM load <;> simp [bind, Except.bind, pure, Except.pure]

/-- Loading a list ends well if loading each member does, and otherwise with the
fault of one of them. -/
theorem mapM_cases {α β ε : Type} {load : α → Except ε β} {names : List α} {P : α → Prop}
    {Q : ε → Prop} (each : ∀ name ∈ names,
      (∃ b, load name = .ok b ∧ P name) ∨ ∃ fault, load name = .error fault ∧ Q fault) :
    (∃ all, names.mapM load = .ok all ∧ ∀ name ∈ names, P name) ∨
      ∃ fault, names.mapM load = .error fault ∧ Q fault := by
  induction names with
  | nil => exact Or.inl ⟨[], rfl, fun _ listed => nomatch listed⟩
  | cons name rest ih =>
    rcases each name List.mem_cons_self with ⟨b, loaded, good⟩ | ⟨fault, failed, bad⟩
    · rcases ih fun other listed => each other (List.mem_cons_of_mem _ listed) with
        ⟨all, others, goods⟩ | ⟨fault, failed, bad⟩
      · refine Or.inl ⟨b :: all, mapM_cons_eq_ok_iff.mpr ⟨b, all, loaded, others, rfl⟩, ?_⟩
        · intro other listed
          rcases List.mem_cons.mp listed with rfl | listed
          · exact good
          · exact goods other listed
      · refine Or.inr ⟨fault, ?_, bad⟩
        rw [List.mapM_cons, loaded, failed]
        rfl
    · refine Or.inr ⟨fault, ?_, bad⟩
      rw [List.mapM_cons, failed]
      rfl

/-- A cycle that a document runs into goes through it or lies behind one that it
includes; in both cases it includes one that runs into a cycle. -/
theorem exists_includes_runsInto {path looped : Path} (runs : RunsInto host disk path looped) :
    ∃ next, Includes host disk path next ∧ RunsInto host disk next looped := by
  obtain ⟨reach, cycle⟩ := runs
  rcases ReflTransGen.cases_head reach with rfl | ⟨next, includes, behind⟩
  · obtain ⟨next, includes, back⟩ := TransGen.head'_iff.mp cycle
    exact ⟨next, includes, back, cycle⟩
  · exact ⟨next, includes, behind, cycle⟩

/-- A document runs into no cycle if those that it includes do not. -/
theorem not_runsInto_of_included {path looped : Path} {nexts : List Path}
    (includes : included host disk path = nexts)
    (behind : ∀ next ∈ nexts, ¬ RunsInto host disk next looped) :
    ¬ RunsInto host disk path looped := by
  intro runs
  obtain ⟨next, listed, further⟩ := exists_includes_runsInto runs
  exact behind next (includes ▸ listed) further

/-- Loading a document on whose way all others lead to it: it is loaded if it runs
into no cycle, and otherwise the fault names a document of a cycle that it runs
into. -/
theorem loadFrom_cases {files : Finset Path} (closed : Closed host disk files)
    (chain : List Path) (path : Path) (listed : path ∈ files)
    (way : ∀ above ∈ chain, TransGen (Includes host disk) above path) :
    (∃ merged, loadFrom host disk chain path = .ok merged ∧
        ∀ looped, ¬ RunsInto host disk path looped) ∨
      ∃ fault, loadFrom host disk chain path = .error fault ∧
        ∃ looped, fault = .circular looped ∧ RunsInto host disk path looped := by
  by_cases met : path ∈ chain
  · exact Or.inr ⟨_, loadFrom_of_mem met, path, rfl, .refl, way path met⟩
  obtain ⟨found, read, targets⟩ := closed path listed
  rw [mem_toOption_iff] at read
  have shrinks := unread_lt (mem_of_source read) met
  rw [loadFrom_of_source met read]
  have each : ∀ name ∈ found.includes, (∃ inner,
        (target host path name >>= loadFrom host disk (path :: chain)) = .ok inner ∧
          ∀ next, target host path name = .ok next → ∀ looped, ¬ RunsInto host disk next looped) ∨
      ∃ fault, (target host path name >>= loadFrom host disk (path :: chain)) = .error fault ∧
        ∃ looped, fault = .circular looped ∧ RunsInto host disk path looped := by
    intro name written
    obtain ⟨next, leads, known⟩ := targets name written
    rw [mem_toOption_iff] at leads
    have step := (includes_iff read).mpr ⟨name, written, leads⟩
    have longer : ∀ above ∈ path :: chain, TransGen (Includes host disk) above next := by
      intro above member
      rcases List.mem_cons.mp member with rfl | member
      · exact .single step
      · exact (way above member).tail step
    rw [leads]
    rcases loadFrom_cases closed (path :: chain) next known longer with
      ⟨inner, loaded, acyclic⟩ | ⟨fault, failed, looped, rfl, reach, cycle⟩
    · exact Or.inl ⟨inner, loaded, fun other same => Except.ok.inj same ▸ acyclic⟩
    · exact Or.inr ⟨_, failed, looped, rfl, .head step reach, cycle⟩
  rcases mapM_cases each with ⟨all, loaded, acyclic⟩ | ⟨fault, failed, runs⟩
  · rw [loaded]
    refine Or.inl ⟨_, rfl, ?_⟩
    intro looped runs
    obtain ⟨next, includes, behind⟩ := exists_includes_runsInto runs
    obtain ⟨name, written, leads⟩ := (includes_iff read).mp includes
    exact acyclic name written next leads looped behind
  · rw [failed]
    exact Or.inr ⟨fault, rfl, runs⟩
termination_by (unread disk chain).length

/-! ## How deep loadings lie in one another -/

/-- A loading, given by the documents on the way and the one to be loaded, asks
for another one. -/
def Asks (host : Host) (disk : Disk) (outer inner : List Path × Path) : Prop :=
  outer.2 ∉ outer.1 ∧ Includes host disk outer.2 inner.2 ∧ inner.1 = outer.2 :: outer.1

theorem Closed.mem {files : Finset Path} (closed : Closed host disk files) {path next : Path}
    (listed : path ∈ files) (includes : Includes host disk path next) : next ∈ files := by
  obtain ⟨found, read, targets⟩ := closed path listed
  obtain ⟨name, written, leads⟩ := (includes_iff (mem_toOption_iff.mp read)).mp includes
  obtain ⟨known, alike, member⟩ := targets name written
  exact Option.mem_unique alike (mem_toOption_iff.mpr leads) ▸ member

/-- The documents on the way never repeat, so there are never more of them than
documents. -/
theorem length_add_length_le {files : Finset Path} (closed : Closed host disk files)
    {chain : List Path} {path : Path} (apart : chain.Nodup)
    (inside : ∀ above ∈ chain, above ∈ files)
    (listed : path ∈ files) {calls : List (List Path × Path)}
    (nested : List.IsChain (Asks host disk) ((chain, path) :: calls)) :
    chain.length + calls.length ≤ files.card := by
  induction calls generalizing chain path with
  | nil =>
    rw [List.length_nil, Nat.add_zero, ← List.toFinset_card_of_nodup apart]
    exact Finset.card_le_card fun above member => inside above (List.mem_toFinset.mp member)
  | cons call calls ih =>
    obtain ⟨⟨fresh, includes, longer⟩, rest⟩ := List.isChain_cons_cons.mp nested
    obtain ⟨way, next⟩ := call
    subst longer
    have insideToo : ∀ above ∈ path :: chain, above ∈ files := by
      intro above member
      rcases List.mem_cons.mp member with rfl | member
      · exact listed
      · exact inside above member
    have deeper := ih (List.nodup_cons.mpr ⟨fresh, apart⟩) insideToo (closed.mem listed includes) rest
    simp only [List.length_cons] at deeper ⊢
    omega

/-! ## The outcome of loading -/

/-- Loading a document among readable ones comes to an end, with no more
loadings inside one another than there are documents.  It is refused as circular
exactly if the document runs into a cycle, and gives a mapping otherwise. -/
theorem load_of_closed {files : Finset Path} (closed : Closed host disk files) {path : Path}
    (start : Path.resolve host.directory path ∈ files)
    (writable : path.text.toList.contains '\x00' = false) :
    (∀ calls, List.IsChain (Asks host disk) (([], Path.resolve host.directory path) :: calls) →
        calls.length ≤ files.card) ∧
      ((∃ looped, load host disk path = .error (.circular looped)) ↔
        ∃ looped, RunsInto host disk (Path.resolve host.directory path) looped) ∧
      ((¬ ∃ looped, load host disk path = .error (.circular looped)) →
        ∃ merged, load host disk path = .ok merged) := by
  have begins : load host disk path =
      loadFrom host disk [] (Path.resolve host.directory path) := by
    simp only [load, writable, Bool.false_eq_true, if_false]
  refine ⟨?_, ?_⟩
  · intro calls nested
    have bounded := length_add_length_le closed List.nodup_nil (by simp) start nested
    simpa using bounded
  rw [begins]
  rcases loadFrom_cases closed [] (Path.resolve host.directory path) start (by simp) with
    ⟨merged, loaded, acyclic⟩ | ⟨fault, failed, looped, rfl, runs⟩
  · rw [loaded]
    refine ⟨⟨?_, ?_⟩, fun _ => ⟨merged, rfl⟩⟩
    · rintro ⟨looped, failed⟩
      cases failed
    · rintro ⟨looped, runs⟩
      exact absurd runs (acyclic looped)
  · rw [failed]
    exact ⟨⟨fun _ => ⟨looped, runs⟩, fun _ => ⟨looped, rfl⟩⟩, fun fine => absurd ⟨looped, rfl⟩ fine⟩

/-! ## A cycle behind a diamond -/

def onShelf (name : String) : Path := ⟨.single, ["shelf", name]⟩

/-- Documents of a directory: `top` includes `base` along two ways, and `entry`
includes `top` and then a document of a cycle that it is not on itself. -/
def shelf : Disk where
  files := [
    (onShelf "entry", "include: [top, one]\n"),
    (onShelf "top", "include: [side, base]\n"),
    (onShelf "side", "include: base\n"),
    (onShelf "base", "level: 1\n"),
    (onShelf "one", "include: two\n"),
    (onShelf "two", "include: one\n")]

def reader : Host where
  directory := ⟨.single, ["shelf"]⟩
  home := ⟨.single, ["home"]⟩

theorem closed_shelf : Closed reader shelf (shelf.files.map Prod.fst).toFinset := by
  unfold Closed
  decide +kernel

theorem runsInto_shelf : RunsInto reader shelf (onShelf "entry") (onShelf "one") := by
  have toCycle : onShelf "one" ∈ included reader shelf (onShelf "entry") := by decide +kernel
  have onward : onShelf "two" ∈ included reader shelf (onShelf "one") := by decide +kernel
  have back : onShelf "one" ∈ included reader shelf (onShelf "two") := by decide +kernel
  exact ⟨.single toCycle, .tail (.single onward) back⟩

theorem not_runsInto_shelf (looped : Path) : ¬ RunsInto reader shelf (onShelf "top") looped := by
  have atBase : included reader shelf (onShelf "base") = [] := by decide +kernel
  have atSide : included reader shelf (onShelf "side") = [onShelf "base"] := by decide +kernel
  have atTop : included reader shelf (onShelf "top") = [onShelf "side", onShelf "base"] := by
    decide +kernel
  have base : ¬ RunsInto reader shelf (onShelf "base") looped :=
    not_runsInto_of_included atBase fun _ listed => nomatch listed
  have side := not_runsInto_of_included atSide fun _ listed => List.mem_singleton.mp listed ▸ base
  apply not_runsInto_of_included atTop
  intro next listed
  rcases List.mem_pair.mp listed with rfl | rfl
  · exact side
  · exact base

theorem load_of_closed_shelf :
    Closed reader shelf (shelf.files.map Prod.fst).toFinset ∧
      (∃ merged, load reader shelf (.ofText "top") = .ok merged) ∧
      ∃ looped, load reader shelf (.ofText "entry") = .error (.circular looped) := by
  have atTop : Path.resolve reader.directory (.ofText "top") = onShelf "top" := by decide +kernel
  have atEntry : Path.resolve reader.directory (.ofText "entry") = onShelf "entry" := by
    decide +kernel
  have topListed : Path.resolve reader.directory (.ofText "top") ∈
      (shelf.files.map Prod.fst).toFinset := by decide +kernel
  have entryListed : Path.resolve reader.directory (.ofText "entry") ∈
      (shelf.files.map Prod.fst).toFinset := by decide +kernel
  obtain ⟨-, topCircular, topLoads⟩ := load_of_closed closed_shelf topListed (by decide +kernel)
  obtain ⟨-, entryCircular, -⟩ := load_of_closed closed_shelf entryListed (by decide +kernel)
  rw [atTop] at topCircular
  rw [atEntry] at entryCircular
  refine ⟨closed_shelf, topLoads ?_, entryCircular.mpr ⟨onShelf "one", runsInto_shelf⟩⟩
  intro circular
  obtain ⟨looped, runs⟩ := topCircular.mp circular
  exact not_runsInto_shelf looped runs

end Include

end Ratchet
