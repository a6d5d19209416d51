import Ratchet.Proofs.Settings.Include
import Ratchet.Proofs.Value.Merge
import Ratchet.Proofs.Yaml.Meaning
import Ratchet.Settings.Layers

namespace Ratchet

/-!
# Which layer decides

The settings of all layers together, key path by key path.  The defaults are the
lowest layer, then come the user's file and the named files in their order,
each with what it includes beneath it and those that do not exist left out.  A
setting has the value of the last layer that sets it, unless a later one settles
its path in another way, and what no layer sets is not set.
-/

namespace Include

variable {host : Host} {disk : Disk}

/-- The results of a list come from its members. -/
theorem exists_of_mem_mapM {α β ε : Type} {load : α → Except ε β} {names : List α} {all : List β}
    (loaded : names.mapM load = .ok all) {b : β} (listed : b ∈ all) :
    ∃ name ∈ names, load name = .ok b := by
  induction names generalizing all with
  | nil =>
    cases loaded
    cases listed
  | cons name rest ih =>
    obtain ⟨first, others, found, further, rfl⟩ := mapM_cons_eq_ok_iff.mp loaded
    rcases List.mem_cons.mp listed with rfl | listed
    · exact ⟨name, List.mem_cons_self, found⟩
    · obtain ⟨other, member, comes⟩ := ih further listed
      exact ⟨other, List.mem_cons_of_mem _ member, comes⟩

/-- The own entries of a document repeat no key. -/
theorem keyed_source {path : Path} {found : Source} (read : source disk path = .ok found) :
    Value.Keyed (.map found.own) := by
  unfold source at read
  split at read
  · cases read
  split at read
  · cases read
  next value parsed =>
  have keyed := Yaml.keyed_read parsed
  unfold Source.ofValue at read
  split at read
  · cases read
    exact .map List.nodup_nil fun _ listed => nomatch listed
  split at read
  · next entries _ =>
    cases listing : listed ((Mapping.get? listName entries).getD .null) with
    | error fault =>
      rw [listing] at read
      cases read
    | ok includes =>
      rw [listing] at read
      cases read
      exact Mapping.keyed_without keyed listName
  · cases read

theorem keyed_loadFrom (chain : List Path) (path : Path) {merged : Mapping}
    (loaded : loadFrom host disk chain path = .ok merged) : Value.Keyed (.map merged) := by
  by_cases met : path ∈ chain
  · rw [loadFrom_of_mem met] at loaded
    cases loaded
  cases read : source disk path with
  | error fault =>
    rw [loadFrom_of_source_error met read] at loaded
    cases loaded
  | ok found =>
    have shrinks := unread_lt (mem_of_source read) met
    rw [loadFrom_of_source met read] at loaded
    cases inner : found.includes.mapM fun name =>
        target host path name >>= loadFrom host disk (path :: chain) with
    | error fault =>
      rw [inner] at loaded
      cases loaded
    | ok layers =>
      rw [inner] at loaded
      cases loaded
      refine Mapping.keyed_merge ?_ fun entry listed => (keyed_source read).value listed
      apply Mapping.keyed_layered
      intro layer listed
      obtain ⟨name, -, comes⟩ := exists_of_mem_mapM inner listed
      cases leads : target host path name with
      | error fault =>
        rw [leads] at comes
        cases comes
      | ok next =>
        rw [leads] at comes
        exact keyed_loadFrom (path :: chain) next comes
termination_by (unread disk chain).length

theorem keyed_load {path : Path} {merged : Mapping} (loaded : load host disk path = .ok merged) :
    Value.Keyed (.map merged) := by
  unfold load at loaded
  split at loaded
  · cases loaded
  · exact keyed_loadFrom [] _ loaded

end Include

namespace Layers

open Include Mapping

variable {host : Host} {disk : Disk}

theorem keyed_record_iff {entries : List (String × Value)} :
    Value.Keyed (.record entries) ↔
      (entries.map Prod.fst).Nodup ∧ ∀ entry ∈ entries, Value.Keyed entry.2 := by
  let written := entries.map fun entry => (Scalar.text entry.1, entry.2)
  have keys : (written.map fun entry => entry.1.canonical) =
      (entries.map Prod.fst).map Scalar.text := by
    simp only [written, List.map_map]
    rfl
  have apart : Unrepeated written ↔ (entries.map Prod.fst).Nodup := by
    rw [Unrepeated, keys]
    exact List.nodup_map_iff fun _ _ same => Scalar.text.inj same
  constructor
  · intro keyed
    refine ⟨apart.mp keyed.unrepeated, fun entry listed => ?_⟩
    have member : (Scalar.text entry.1, entry.2) ∈ written := List.mem_map.mpr ⟨entry, listed, rfl⟩
    exact keyed.value member
  · rintro ⟨distinct, values⟩
    refine .map (apart.mpr distinct) ?_
    intro entry listed
    obtain ⟨original, member, rfl⟩ := List.mem_map.mp listed
    exact values original member

theorem keyed_record_cons {key : String} {value : Value} {rest : List (String × Value)} :
    Value.Keyed (.record ((key, value) :: rest)) ↔
      key ∉ rest.map Prod.fst ∧ value.Keyed ∧ Value.Keyed (.record rest) := by
  simp only [keyed_record_iff, List.map_cons, List.nodup_cons, List.forall_mem_cons]
  exact ⟨fun ⟨⟨fresh, distinct⟩, top, others⟩ => ⟨fresh, top, distinct, others⟩,
    fun ⟨fresh, top, distinct, others⟩ => ⟨⟨fresh, distinct⟩, top, others⟩⟩

theorem keyed_record_nil : Value.Keyed (.record []) :=
  .map List.nodup_nil fun _ listed => nomatch listed

theorem keyed_defaults : Value.Keyed (.map defaults) := by
  have toggles : Value.Keyed
      (.record (Toggle.all.map fun toggle => (toggle.flag, .bool true))) := by
    refine keyed_record_iff.mpr ⟨by decide +kernel, ?_⟩
    intro entry listed
    obtain ⟨toggle, -, rfl⟩ := List.mem_map.mp listed
    exact .scalar _
  have commands : Value.Keyed
      (.record (Git.defaults.map fun template => (template.1, .text template.2))) := by
    refine keyed_record_iff.mpr ⟨by decide +kernel, ?_⟩
    intro entry listed
    obtain ⟨template, -, rfl⟩ := List.mem_map.mp listed
    exact .scalar _
  unfold defaults
  refine .map (by simp [Unrepeated]) ?_
  simp [keyed_record_cons, keyed_record_nil, Value.Keyed.scalar, Value.Keyed.list, toggles, commands]

/-! ## The layers -/

/-- Of the paths that may lead to a layer, those that lead to a file do. -/
theorem mapM_layerAt {paths : List Path} {found : List Mapping}
    (loaded : (paths.filter (disk.isFile host.directory)).mapM (load host disk) = .ok found) :
    ∃ lists, paths.mapM (layerAt host disk) = .ok lists ∧ lists.flatten = found := by
  induction paths generalizing found with
  | nil =>
    cases loaded
    exact ⟨[], rfl, rfl⟩
  | cons path rest ih =>
    by_cases isFile : disk.isFile host.directory path = true
    · rw [List.filter_cons_of_pos isFile] at loaded
      obtain ⟨layer, layers, top, below, rfl⟩ := mapM_cons_eq_ok_iff.mp loaded
      obtain ⟨lists, all, flat⟩ := ih below
      refine ⟨[layer] :: lists, mapM_cons_eq_ok_iff.mpr ⟨[layer], lists, ?_, all, rfl⟩, ?_⟩
      · rw [layerAt, if_pos isFile, top]
        rfl
      · rw [List.flatten_cons, flat]
        rfl
    · rw [List.filter_cons_of_neg isFile] at loaded
      obtain ⟨lists, all, flat⟩ := ih loaded
      refine ⟨[] :: lists, mapM_cons_eq_ok_iff.mpr ⟨[], lists, ?_, all, rfl⟩, flat⟩
      rw [layerAt, if_neg isFile]
      rfl

/-- Names lead to the layers of their paths. -/
theorem mapM_layerNamed {names : List String} {paths : List Path}
    (named : names.mapM (fun name => host.expandHome? (.ofText name)) = some paths) :
    names.mapM (layerNamed host disk) = paths.mapM (layerAt host disk) := by
  induction names generalizing paths with
  | nil =>
    cases named
    rfl
  | cons name rest ih =>
    rw [List.mapM_cons] at named
    obtain ⟨path, leads, others⟩ := Option.bind_eq_some_iff.mp named
    obtain ⟨further, leadFurther, same⟩ := Option.bind_eq_some_iff.mp others
    cases same
    rw [List.mapM_cons, List.mapM_cons, ih leadFurther, layerNamed, leads]

/-- All layers: the defaults, the user's file and the named files, as far as they
exist. -/
theorem layers_eq_ok {names : List String} {paths : List Path} {found : List Mapping}
    (named : names.mapM (fun name => host.expandHome? (.ofText name)) = some paths)
    (loaded : ((userFile host :: paths).filter (disk.isFile host.directory)).mapM
      (load host disk) = .ok found) :
    layers host disk names = .ok (defaults :: found) := by
  obtain ⟨lists, all, flat⟩ := mapM_layerAt loaded
  obtain ⟨user, others, first, further, rfl⟩ := mapM_cons_eq_ok_iff.mp all
  rw [layers, first, mapM_layerNamed named, further, ← flat]
  rfl

theorem keyed_layer {paths : List Path} {found : List Mapping}
    (loaded : paths.mapM (load host disk) = .ok found) :
    ∀ layer ∈ defaults :: found, Value.Keyed (.map layer) := by
  intro layer listed
  rcases List.mem_cons.mp listed with rfl | listed
  · exact keyed_defaults
  · obtain ⟨path, -, comes⟩ := exists_of_mem_mapM loaded listed
    exact keyed_load comes

/-- Reading settings gives at each path the value of the last layer that has one
there and over which no later layer settles the path, and nothing where no layer
has anything. -/
theorem read_lastWriter {names : List String} {paths : List Path} {found : List Mapping}
    (named : names.mapM (fun name => host.expandHome? (.ofText name)) = some paths)
    (loaded : ((userFile host :: paths).filter (disk.isFile host.directory)).mapM
      (load host disk) = .ok found) :
    ∃ merged, read host disk names = .ok merged ∧ ∀ path, path ≠ [] →
      (∀ value : Value, value.isMap = false →
        (at? path merged = some value ↔
          ∃ lower layer upper, defaults :: found = lower ++ layer :: upper ∧
            at? path layer = some value ∧ ∀ later ∈ upper, ¬ Settles path later)) ∧
      ((∀ layer ∈ defaults :: found, at? path layer = none) → at? path merged = none) := by
  have keyed := keyed_layer loaded
  refine ⟨layered (defaults :: found), ?_, ?_⟩
  · rw [read, layers_eq_ok named loaded]
    rfl
  intro path proper
  refine ⟨fun value leaf => at?_layered_eq_some_iff keyed leaf, ?_⟩
  intro unset
  rw [Option.eq_none_iff_forall_ne_some]
  intro value there
  obtain ⟨layer, listed, other, sets⟩ := exists_at?_of_layered keyed proper there
  rw [unset layer listed] at sets
  cases sets

/-! ## A project that says one thing of two -/

def visitor : Host where
  directory := ⟨.single, ["work"]⟩
  home := ⟨.single, ["home"]⟩

def workshop : Disk where
  files := [(⟨.single, ["work", "strictify.yaml"]⟩,
    "config: \x7bcompiler: \x7bcommand: npx tsc\x7d\x7d\n")]

def commandPath : List Scalar := [.text "config", .text "compiler", .text "command"]

def branchPath : List Scalar := [.text "config", .text "git", .text "target_branch"]

/-- The scalar that a value is. -/
def scalar? : Value → Option Scalar
  | .scalar s => some s
  | .list _ | .map _ | .set _ => none

theorem at?_of_scalar? {path : List Scalar} {entries : Mapping} {s : Scalar}
    (found : (at? path entries).bind scalar? = some s) : at? path entries = some (.scalar s) := by
  obtain ⟨value, there, same⟩ := Option.bind_eq_some_iff.mp found
  cases value with
  | scalar other =>
    cases same
    exact there
  | list | map | set => cases same

theorem load_workshop : ∃ layer, load visitor workshop (.ofText "strictify.yaml") = .ok layer ∧
    at? commandPath layer = some (.text "npx tsc") ∧ ¬ Settles branchPath layer := by
  have reads : ∃ found ∈ (source workshop ⟨.single, ["work", "strictify.yaml"]⟩).toOption,
      found.includes.length = 0 ∧
        (at? commandPath (merge [] found.own)).bind scalar? = some (.text "npx tsc") ∧
          ¬ Settles branchPath (merge [] found.own) := by decide +kernel
  obtain ⟨found, read, alone, written, silent⟩ := reads
  refine ⟨merge [] found.own, ?_, at?_of_scalar? written, silent⟩
  have resolved : Path.resolve visitor.directory (.ofText "strictify.yaml") =
      ⟨.single, ["work", "strictify.yaml"]⟩ := by decide +kernel
  have clean : ((Path.ofText "strictify.yaml").text.toList.contains '\x00') = false := by
    decide +kernel
  rw [load, clean, resolved]
  simp only [Bool.false_eq_true, if_false]
  rw [loadFrom_of_source List.not_mem_nil (mem_toOption_iff.mp read),
    List.length_eq_zero_iff.mp alone]
  rfl

theorem read_lastWriter_workshop : ∃ merged,
    read visitor workshop ["strictify.yaml", "absent.yaml"] = .ok merged ∧
      at? commandPath merged = some (.text "npx tsc") ∧
      at? branchPath merged = some (.text "master") := by
  obtain ⟨layer, loaded, written, silent⟩ := load_workshop
  have named : ["strictify.yaml", "absent.yaml"].mapM
      (fun name => visitor.expandHome? (.ofText name)) =
        some [.ofText "strictify.yaml", .ofText "absent.yaml"] := by decide +kernel
  have existing : (userFile visitor :: [.ofText "strictify.yaml", .ofText "absent.yaml"]).filter
      (workshop.isFile visitor.directory) = [.ofText "strictify.yaml"] := by decide +kernel
  have all : ((userFile visitor :: [.ofText "strictify.yaml", .ofText "absent.yaml"]).filter
      (workshop.isFile visitor.directory)).mapM (load visitor workshop) = .ok [layer] := by
    rw [existing]
    exact mapM_cons_eq_ok_iff.mpr ⟨layer, [], loaded, rfl, rfl⟩
  obtain ⟨merged, whole, decides⟩ := read_lastWriter named all
  have branch : at? branchPath defaults = some (.text "master") :=
    at?_of_scalar? (by decide +kernel)
  refine ⟨merged, whole, ?_, ?_⟩
  · refine ((decides commandPath (by decide)).1 _ rfl).mpr ⟨[defaults], layer, [], rfl, written, ?_⟩
    exact fun _ listed => nomatch listed
  · refine ((decides branchPath (by decide)).1 _ rfl).mpr ⟨[], defaults, [layer], rfl, branch, ?_⟩
    intro later listed
    rw [List.mem_singleton.mp listed]
    exact silent

end Layers

end Ratchet
