import Ratchet.Proofs.Settings.Layers
import Ratchet.Proofs.Value.Compatible

namespace Ratchet

namespace Include

open Mapping Relation

/-!
# Nested includes as layers

A document and all that it includes, spread out as one list of layers: each
document stands behind what it includes, in the listed order, and as often as
it is included.  Only a document that runs into no cycle can be spread out.
Loading it gives the layers merged from below, and the result may be laid over
anything as if the layers were, provided that no layer has a mapping where
another one has something else.
-/

variable {host : Host} {disk : Disk}

/-- The own entries of the document at a path, none if it cannot be read. -/
def own (disk : Disk) (path : Path) : Mapping :=
  match source disk path with
  | .ok found => found.own
  | .error _ => []

/-- Documents spread out: in front of each one stands what it includes, spread out
in turn. -/
inductive Unfolds (host : Host) (disk : Disk) : List Path → List Path → Prop
  | nil : Unfolds host disk [] []
  | cons {path : Path} {found : Source} {nexts rest beneath others : List Path}
      (read : source disk path = .ok found)
      (targets : found.includes.mapM (target host path) = .ok nexts)
      (inner : Unfolds host disk nexts beneath) (outer : Unfolds host disk rest others) :
      Unfolds host disk (path :: rest) (beneath ++ path :: others)

theorem own_of_source {path : Path} {found : Source} (read : source disk path = .ok found) :
    own disk path = found.own := by
  rw [own, read]

theorem keyed_own (disk : Disk) (path : Path) : Value.Keyed (.map (own disk path)) := by
  unfold own
  split
  · next found read => exact keyed_source read
  · exact .map List.nodup_nil fun _ listed => absurd listed List.not_mem_nil

/-! ## Targets -/

theorem mem_of_mapM {α β ε : Type} {load : α → Except ε β} {names : List α} {all : List β}
    (loaded : names.mapM load = .ok all) {name : α} (listed : name ∈ names) :
    ∃ b ∈ all, load name = .ok b := by
  induction names generalizing all with
  | nil => cases listed
  | cons first rest ih =>
    obtain ⟨top, others, found, further, rfl⟩ := mapM_cons_eq_ok_iff.mp loaded
    rcases List.mem_cons.mp listed with rfl | listed
    · exact ⟨top, List.mem_cons_self, found⟩
    · obtain ⟨b, member, comes⟩ := ih further listed
      exact ⟨b, List.mem_cons_of_mem _ member, comes⟩

theorem mapM_bind_of_ok {α β γ ε : Type} {lead : α → Except ε β} {load : β → Except ε γ}
    {names : List α} {nexts : List β} (leads : names.mapM lead = .ok nexts) :
    (names.mapM fun name => lead name >>= load) = nexts.mapM load := by
  induction names generalizing nexts with
  | nil =>
    cases leads
    rfl
  | cons name rest ih =>
    obtain ⟨next, others, found, further, rfl⟩ := mapM_cons_eq_ok_iff.mp leads
    rw [List.mapM_cons, List.mapM_cons, ih further, found]
    rfl

theorem mem_nexts_iff {path next : Path} {found : Source} {nexts : List Path}
    (read : source disk path = .ok found)
    (targets : found.includes.mapM (target host path) = .ok nexts) :
    next ∈ nexts ↔ Includes host disk path next := by
  rw [includes_iff read]
  constructor
  · exact exists_of_mem_mapM targets
  · rintro ⟨name, written, leads⟩
    obtain ⟨other, member, alike⟩ := mem_of_mapM targets written
    exact Except.ok.inj (leads.symm.trans alike) ▸ member

/-- The documents on the way to one are on the way to those that it includes, and
so is the document itself. -/
theorem way_below {chain nexts : List Path} {path : Path} {found : Source}
    (read : source disk path = .ok found)
    (targets : found.includes.mapM (target host path) = .ok nexts)
    (way : ∀ above ∈ chain, TransGen (Includes host disk) above path) :
    ∀ above ∈ path :: chain, ∀ next ∈ nexts, TransGen (Includes host disk) above next := by
  intro above listed next member
  have step := (mem_nexts_iff read targets).mp member
  rcases List.mem_cons.mp listed with rfl | listed
  · exact .single step
  · exact (way above listed).tail step

/-! ## Spreading documents out -/

theorem Unfolds.append {first second one other : List Path}
    (unfolds : Unfolds host disk first one) (more : Unfolds host disk second other) :
    Unfolds host disk (first ++ second) (one ++ other) := by
  induction unfolds with
  | nil => exact more
  | cons read targets inner _ _ ih =>
    rw [List.append_assoc]
    exact .cons read targets inner ih

/-- A document that can be spread out runs into no cycle. -/
theorem Unfolds.not_runsInto {paths order : List Path} (unfolds : Unfolds host disk paths order) :
    ∀ path ∈ paths, ∀ looped, ¬ RunsInto host disk path looped := by
  induction unfolds with
  | nil => exact fun path listed => nomatch listed
  | cons read targets _ _ beneath others =>
    intro path listed looped
    rcases List.mem_cons.mp listed with rfl | listed
    · refine not_runsInto_of_included rfl fun next includes => ?_
      exact beneath next ((mem_nexts_iff read targets).mpr includes) looped
    · exact others path listed looped

/-- Only documents that can be reached stand among the layers. -/
theorem Unfolds.reaches {paths order : List Path} (unfolds : Unfolds host disk paths order) :
    ∀ layer ∈ order, ∃ path ∈ paths, ReflTransGen (Includes host disk) path layer := by
  induction unfolds with
  | nil => exact fun layer listed => nomatch listed
  | @cons path found nexts rest _ _ read targets _ _ beneath others =>
    intro layer listed
    rcases List.mem_append.mp listed with listed | listed
    · obtain ⟨next, member, behind⟩ := beneath layer listed
      exact ⟨path, List.mem_cons_self, .head ((mem_nexts_iff read targets).mp member) behind⟩
    rcases List.mem_cons.mp listed with rfl | listed
    · exact ⟨layer, List.mem_cons_self, .refl⟩
    · obtain ⟨other, member, behind⟩ := others layer listed
      exact ⟨other, List.mem_cons_of_mem _ member, behind⟩

theorem exists_unfolds_of_each {paths : List Path}
    (each : ∀ path ∈ paths, ∃ order, Unfolds host disk [path] order) :
    ∃ order, Unfolds host disk paths order := by
  induction paths with
  | nil => exact ⟨[], .nil⟩
  | cons path rest ih =>
    obtain ⟨one, first⟩ := each path List.mem_cons_self
    obtain ⟨other, others⟩ := ih fun next listed => each next (List.mem_cons_of_mem _ listed)
    exact ⟨one ++ other, first.append others⟩

/-- What is loaded can be spread out. -/
theorem exists_unfolds (chain : List Path) (path : Path) {merged : Mapping}
    (loaded : loadFrom host disk chain path = .ok merged) :
    ∃ order, Unfolds host disk [path] order := by
  by_cases met : path ∈ chain
  · rw [loadFrom_of_mem met] at loaded
    cases loaded
  cases read : source disk path with
  | error fault =>
    rw [loadFrom_of_source_error met read] at loaded
    cases loaded
  | ok found =>
    have shrinks := unread_lt (mem_of_source read) met
    rw [loadFrom_of_source met read] at loaded
    cases inner : found.includes.mapM fun name =>
        target host path name >>= loadFrom host disk (path :: chain) with
    | error fault =>
      rw [inner] at loaded
      cases loaded
    | ok layers =>
      have each : ∀ name ∈ found.includes, ∃ next, target host path name = .ok next ∧
          ∃ order, Unfolds host disk [next] order := by
        intro name written
        obtain ⟨layer, -, comes⟩ := mem_of_mapM inner written
        cases leads : target host path name with
        | error fault =>
          rw [leads] at comes
          cases comes
        | ok next =>
          rw [leads] at comes
          exact ⟨next, rfl, exists_unfolds (path :: chain) next comes⟩
      have lead : ∀ name ∈ found.includes, (∃ next, target host path name = .ok next ∧ True) ∨
          ∃ fault, target host path name = .error fault ∧ False := fun name written =>
        Or.inl ((each name written).imp fun next both => ⟨both.1, trivial⟩)
      rcases mapM_cases lead with ⟨nexts, targets, -⟩ | ⟨_, -, never⟩
      · obtain ⟨beneath, unfolds⟩ := exists_unfolds_of_each fun next member => by
          obtain ⟨name, written, leads⟩ := exists_of_mem_mapM targets member
          obtain ⟨other, alike, order⟩ := each name written
          exact Except.ok.inj (alike.symm.trans leads) ▸ order
        exact ⟨beneath ++ [path], .cons read targets unfolds .nil⟩
      · exact never.elim
termination_by (unread disk chain).length

/-! ## Loading them -/

theorem keyed_layers (disk : Disk) (order : List Path) :
    ∀ layer ∈ order.map (own disk), Value.Keyed (.map layer) := by
  intro layer listed
  obtain ⟨path, -, rfl⟩ := List.mem_map.mp listed
  exact keyed_own disk path

theorem pairwise_layers {order : List Path}
    (compatible : ∀ one ∈ order, ∀ other ∈ order, Compatible (own disk one) (own disk other)) :
    (order.map (own disk)).Pairwise Compatible :=
  List.pairwise_map.mpr (List.pairwise_of_forall_mem_list compatible)

/-- A document gives the layers of what it includes with its own entries on top,
if what it includes gives its layers. -/
theorem loadFrom_of_layers {chain nexts beneath : List Path} {path : Path} {found : Source}
    {below : List Mapping} (fresh : path ∉ chain) (read : source disk path = .ok found)
    (targets : found.includes.mapM (target host path) = .ok nexts)
    (loaded : nexts.mapM (loadFrom host disk (path :: chain)) = .ok below)
    (same : layered below = layered (beneath.map (own disk))) :
    loadFrom host disk chain path = .ok (layered ((beneath ++ [path]).map (own disk))) := by
  rw [loadFrom_of_source fresh read, mapM_bind_of_ok targets, loaded, List.map_append,
    List.map_singleton, layered_concat, own_of_source read, ← same]
  rfl

/-- Loading documents gives mappings that may be laid over anything as if their
layers were. -/
theorem Unfolds.mapM_loadFrom {paths order : List Path} (unfolds : Unfolds host disk paths order)
    (compatible : ∀ one ∈ order, ∀ other ∈ order, Compatible (own disk one) (own disk other))
    (chain : List Path)
    (way : ∀ above ∈ chain, ∀ path ∈ paths, TransGen (Includes host disk) above path) :
    ∃ loaded, paths.mapM (loadFrom host disk chain) = .ok loaded ∧
      ∀ base, loaded.foldl merge base = (order.map (own disk)).foldl merge base := by
  induction unfolds generalizing chain with
  | nil => exact ⟨[], rfl, fun base => rfl⟩
  | @cons path found nexts rest beneath others read targets inner outer within further =>
    have fresh : path ∉ chain := by
      intro met
      have cycle := way path met path List.mem_cons_self
      exact (Unfolds.cons read targets inner outer).not_runsInto path List.mem_cons_self path
        ⟨.refl, cycle⟩
    obtain ⟨below, loadedBelow, same⟩ := within
      (fun one listed other member => compatible one (List.mem_append_left _ listed) other
        (List.mem_append_left _ member))
      (path :: chain)
      (way_below read targets fun above met => way above met path List.mem_cons_self)
    obtain ⟨behind, loadedBehind, alike⟩ := further
      (fun one listed other member => compatible one (by simp [listed]) other (by simp [member]))
      chain fun above listed next member => way above listed next (List.mem_cons_of_mem _ member)
    have loaded := loadFrom_of_layers fresh read targets loadedBelow (same [])
    refine ⟨_, mapM_cons_eq_ok_iff.mpr ⟨_, behind, loaded, loadedBehind, rfl⟩, fun base => ?_⟩
    have regroup : beneath ++ path :: others = (beneath ++ [path]) ++ others := by simp
    rw [regroup] at compatible ⊢
    have top := pairwise_layers fun one listed other member =>
      compatible one (List.mem_append_left _ listed) other (List.mem_append_left _ member)
    rw [List.foldl_cons, merge_layered base (keyed_layers disk _) top, alike]
    simp only [List.map_append, List.foldl_append]

/-- A document that runs into no cycle can be spread out into layers.  If these are
compatible with one another, loading it gives the layers merged from below, and
laying the result over a base is laying the layers over it one by one. -/
theorem load_eq_layered {files : Finset Path} (closed : Closed host disk files) {path : Path}
    (start : Path.resolve host.directory path ∈ files)
    (writable : path.text.toList.contains '\x00' = false)
    (acyclic : ∀ looped, ¬ RunsInto host disk (Path.resolve host.directory path) looped)
    (compatible : ∀ one other,
      ReflTransGen (Includes host disk) (Path.resolve host.directory path) one →
      ReflTransGen (Includes host disk) (Path.resolve host.directory path) other →
      Compatible (own disk one) (own disk other)) :
    ∃ order, Unfolds host disk [Path.resolve host.directory path] order ∧
      load host disk path = .ok (layered (order.map (own disk))) ∧
      ∀ base, merge base (layered (order.map (own disk))) =
        (order.map (own disk)).foldl merge base := by
  have begins : load host disk path =
      loadFrom host disk [] (Path.resolve host.directory path) := by
    simp only [load, writable, Bool.false_eq_true, if_false]
  rcases loadFrom_cases closed [] _ start (by simp) with
    ⟨_, loaded, -⟩ | ⟨_, -, looped, -, runs⟩
  swap
  · exact absurd runs (acyclic looped)
  obtain ⟨order, unfolds⟩ := exists_unfolds [] _ loaded
  have among : ∀ one ∈ order, ∀ other ∈ order, Compatible (own disk one) (own disk other) := by
    intro one listed other member
    obtain ⟨_, same, reach⟩ := unfolds.reaches one listed
    obtain ⟨_, alike, behind⟩ := unfolds.reaches other member
    rw [List.mem_singleton.mp same] at reach
    rw [List.mem_singleton.mp alike] at behind
    exact compatible one other reach behind
  refine ⟨order, unfolds, ?_, fun base => ?_⟩
  · rw [begins]
    cases unfolds with
    | cons read targets inner outer =>
      cases outer
      obtain ⟨below, loadedBelow, same⟩ := inner.mapM_loadFrom
        (fun one listed other member => among one (by simp [listed]) other (by simp [member]))
        [Path.resolve host.directory path]
        (way_below read targets fun _ met => absurd met List.not_mem_nil)
      exact loadFrom_of_layers List.not_mem_nil read targets loadedBelow (same [])
  · exact merge_layered base (keyed_layers disk order) (pairwise_layers among)

/-! ## A sheet whose page is included twice -/

/-- Documents of the shelf's directory: `sheet` includes `margin` and then `page`,
which `margin` includes too. -/
def drawer : Disk where
  files := [
    (onShelf "sheet", "include: [margin, page]\npaper: \x7bsize: 5\x7d\n"),
    (onShelf "margin", "include: page\npaper: \x7bmargin: 2\x7d\n"),
    (onShelf "page", "paper: \x7bsize: 4, margin: 1\x7d\n")]

theorem closed_drawer : Closed reader drawer (drawer.files.map Prod.fst).toFinset := by
  unfold Closed
  decide +kernel

theorem not_runsInto_drawer (looped : Path) :
    ¬ RunsInto reader drawer (onShelf "sheet") looped := by
  have atPage : included reader drawer (onShelf "page") = [] := by decide +kernel
  have atMargin : included reader drawer (onShelf "margin") = [onShelf "page"] := by
    decide +kernel
  have atSheet : included reader drawer (onShelf "sheet") =
      [onShelf "margin", onShelf "page"] := by decide +kernel
  have page : ¬ RunsInto reader drawer (onShelf "page") looped :=
    not_runsInto_of_included atPage fun _ listed => nomatch listed
  have margin := not_runsInto_of_included atMargin fun _ listed =>
    List.mem_singleton.mp listed ▸ page
  apply not_runsInto_of_included atSheet
  intro next listed
  rcases List.mem_pair.mp listed with rfl | rfl
  · exact margin
  · exact page

/-- Whatever can be reached from a document of the drawer is one. -/
theorem compatible_drawer (one other : Path)
    (reach : ReflTransGen (Includes reader drawer) (onShelf "sheet") one)
    (behind : ReflTransGen (Includes reader drawer) (onShelf "sheet") other) :
    Compatible (own drawer one) (own drawer other) := by
  have inside {path : Path}
      (reached : ReflTransGen (Includes reader drawer) (onShelf "sheet") path) :
      path ∈ drawer.files.map Prod.fst := by
    induction reached with
    | refl => decide
    | tail _ includes ih =>
      exact List.mem_toFinset.mp (closed_drawer.mem (List.mem_toFinset.mpr ih) includes)
  have all : ∀ first ∈ drawer.files.map Prod.fst, ∀ second ∈ drawer.files.map Prod.fst,
      agrees (own drawer second) (own drawer first) = true := by decide +kernel
  exact compatible_of_agrees (all one (inside reach) other (inside behind))

theorem load_eq_layered_drawer : ∃ order, Unfolds reader drawer [onShelf "sheet"] order ∧
    load reader drawer (.ofText "sheet") = .ok (layered (order.map (own drawer))) ∧
    ∀ base, merge base (layered (order.map (own drawer))) =
      (order.map (own drawer)).foldl merge base := by
  have leads : Path.resolve reader.directory (.ofText "sheet") = onShelf "sheet" := by
    decide +kernel
  have listed : onShelf "sheet" ∈ (drawer.files.map Prod.fst).toFinset := by decide +kernel
  have applied := load_eq_layered closed_drawer (leads ▸ listed) (by decide +kernel)
    (leads ▸ not_runsInto_drawer) (leads ▸ compatible_drawer)
  rwa [leads] at applied

end Include

end Ratchet
