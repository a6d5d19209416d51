import Ratchet.Proofs.Settings.Reference

namespace Ratchet

namespace Tree

open Reference (mentioned Shut Tidy Expands resolve?)

/-!
# One pass over all texts

References are replaced in one pass, text after text, and what a reference
leads to is put in as it is at that moment.  So a reference that looks back
gets a text that is done, and one that looks ahead gets one that is not: the
references in that text are copied and nobody visits them again.  One pass is
enough exactly if no text looks ahead to a text with references of its own.
-/

/-! ## Texts and the names in them -/

/-- The text of a text or path. -/
def written? : Tree → Option String
  | .text s => some s
  | .path p => some p.text
  | _ => Option.none

/-- The dotted names that the text of a part mentions. -/
def names (part : Tree) : List String :=
  match part.written? with
  | some s => (mentioned s.toList).map String.ofList
  | Option.none => []

/-- True of a part none of whose names leads anywhere. -/
def Plain (host : Host) (root part : Tree) : Prop :=
  ∀ name ∈ part.names, resolve? host root name = .ok Option.none

variable {resolve look : String → Except Reference.Failure (Option String)} {host : Host}
  {t root final one other part new : Tree} {address place : List Nat} {name s : String}

theorem exists_written (isText : part.isWritten = true) :
    ∃ s, part.written? = some s ∧ part.inText = s := by
  cases part with
  | text s => exact ⟨s, rfl, rfl⟩
  | path p => exact ⟨p.text, rfl, rfl⟩
  | none | flag | number | mode | list | table | «section» => cases isText

theorem forall_names_iff {P : String → Prop} (reads : part.written? = some s) :
    (∀ name ∈ part.names, P name) ↔ ∀ name ∈ mentioned s.toList, P (String.ofList name) := by
  rw [names, reads]
  exact List.forall_mem_map

/-- Replacing the references of a text or path goes by its text.  A new path loses
what paths lose, which is no mention. -/
theorem exists_of_expandedBy (reads : part.written? = some s)
    (done : expandedBy resolve part = .ok new) :
    ∃ s' out : String, Expands resolve s.toList s'.toList ∧ new.written? = some out ∧
      mentioned out.toList = mentioned s'.toList ∧ (Shut s'.toList → Shut out.toList) := by
  cases part with
  | text =>
    cases reads
    obtain ⟨s', replaced, rfl⟩ := Reference.map_eq_ok_iff.mp done
    exact ⟨s', s', Reference.expandBy_eq_ok_iff.mp replaced, rfl, rfl, id⟩
  | path p =>
    cases reads
    obtain ⟨s', replaced, rfl⟩ := Reference.map_eq_ok_iff.mp done
    have expands := Reference.expandBy_eq_ok_iff.mp replaced
    by_cases same : s' = p.text
    · exact ⟨s', p.text, expands, by rw [if_pos same]; rfl, by rw [same], by rw [same]; exact id⟩
    · exact ⟨s', (Path.ofText s').text, expands, by rw [if_neg same]; rfl,
        Reference.mentioned_ofText s', Reference.shut_ofText⟩
  | none | flag | number | mode | list | table | «section» => cases reads

theorem expandedBy_congr (agree : ∀ name ∈ part.names, resolve name = look name)
    (done : expandedBy resolve part = .ok new) : expandedBy look part = .ok new := by
  cases reads : part.written? with
  | none =>
    cases part with
    | text | path => cases reads
    | none | flag | number | mode | list | table | «section» => exact done
  | some s =>
    rw [forall_names_iff reads] at agree
    have again {s' : String} (replaced : Reference.expandBy resolve s = .ok s') :
        Reference.expandBy look s = .ok s' :=
      Reference.expandBy_eq_ok_iff.mpr ((Reference.expandBy_eq_ok_iff.mp replaced).congr agree)
    cases part with
    | text =>
      cases reads
      obtain ⟨s', replaced, rfl⟩ := Reference.map_eq_ok_iff.mp done
      rw [expandedBy, again replaced]
      rfl
    | path p =>
      cases reads
      obtain ⟨s', replaced, rfl⟩ := Reference.map_eq_ok_iff.mp done
      rw [expandedBy, again replaced]
      rfl
    | none | flag | number | mode | list | table | «section» => cases reads

theorem expandedBy_self (nowhere : ∀ name ∈ part.names, resolve name = .ok Option.none) :
    expandedBy resolve part = .ok part := by
  cases reads : part.written? with
  | none =>
    cases part with
    | text | path => cases reads
    | none | flag | number | mode | list | table | «section» => rfl
  | some s =>
    have same := Reference.expandBy_eq_ok_iff.mpr
      (Reference.expands_self ((forall_names_iff reads).mp nowhere))
    cases part with
    | text =>
      cases reads
      rw [expandedBy, same]
      rfl
    | path p =>
      cases reads
      rw [expandedBy, same, Except.map, if_pos rfl]
    | none | flag | number | mode | list | table | «section» => cases reads

/-- A tree all of whose texts are plain stays as it is. -/
theorem expandAll_self
    (settled : ∀ address ∈ t.addresses, ∀ part ∈ t.at? address, Plain host t part) :
    expandAll host t = .ok t := by
  have visits (pending : List (List Nat)) (listed : pending ⊆ t.addresses) :
      pending.foldlM (visit (resolve? host)) t = .ok t := by
    induction pending with
    | nil => rfl
    | cons address rest ih =>
      rw [List.cons_subset] at listed
      obtain ⟨part, found⟩ := exists_at? listed.1
      have stays : visit (resolve? host) t address = .ok t := by
        simp only [visit, found, expandedBy_self (settled address listed.1 part found)]
        exact congrArg Except.ok (modifyAt_eq_self found rfl)
      rw [List.foldlM_cons, stays]
      exact ih listed.2
  exact visits t.addresses (List.Subset.refl _)

/-- A text that is plain whenever it is visited stays as it is. -/
theorem at?_expandAll_of_plain (replaced : expandAll host t = .ok final)
    (listed : address ∈ t.addresses) (found : t.at? address = some part)
    (plain : ∀ root : Tree, root.shape = t.shape → Plain host root part) :
    final.at? address = some part := by
  obtain ⟨mid, stage⟩ := exists_stage replaced listed
  obtain ⟨old, new, there, done, filled⟩ := stage.filled
  cases found.symm.trans there
  cases (expandedBy_self (plain mid stage.alike)).symm.trans done
  exact filled

/-! ## Which settings one pass is enough for -/

/-- True of a name that is the name of a text, or that leads to something that no
reference plays a part in and whose form opens no name. -/
def Simple (host : Host) (t : Tree) (name : String) : Prop :=
  (∃ other ∈ t.addresses, t.located? name = some other) ∨
    (∀ address ∈ t.used? name, ∀ other ∈ t.addresses, address <+: other →
      ∀ part ∈ t.at? other, Plain host t part) ∧
    ∀ s ∈ (resolve? host t name).toOption.join, '{' ∉ s.toList

/-- What is asked of a text: its names are simple, and it is tidy. -/
def Regular (host : Host) (t : Tree) : Prop :=
  ∀ address ∈ t.addresses, ∀ part ∈ t.at? address,
    (∀ name ∈ part.names, Simple host t name) ∧
    ∀ s ∈ part.written?, Tidy (resolve? host t) s.toList

/-- True if every text that a text refers to comes before it or has no references
of its own. -/
def LooksBack (host : Host) (t : Tree) : Prop :=
  ∀ address ∈ t.addresses, ∀ part ∈ t.at? address, ∀ name ∈ part.names,
    ∀ other ∈ t.addresses, t.located? name = some other →
      t.Before other address ∨ ∀ target ∈ t.at? other, Plain host t target

instance (host : Host) (root part : Tree) : Decidable (Plain host root part) :=
  inferInstanceAs (Decidable (∀ name ∈ part.names, _ = _))

instance (host : Host) (t : Tree) (name : String) : Decidable (Simple host t name) :=
  inferInstanceAs (Decidable (_ ∨ _ ∧ _))

instance (host : Host) (t : Tree) : Decidable (Regular host t) :=
  inferInstanceAs (Decidable (∀ address ∈ t.addresses, _))

instance (host : Host) (t : Tree) : Decidable (LooksBack host t) :=
  inferInstanceAs (Decidable (∀ address ∈ t.addresses, _))

/-- What replacing all references should lead to: no text refers to anything any
more, replacing the references again changes nothing, and every text is its full
expansion, that is what replacing its references by the texts of the end makes
of it. -/
structure Complete (host : Host) (t final : Tree) : Prop where
  settled : ∀ address ∈ final.addresses, ∀ part ∈ final.at? address, Plain host final part
  stable : expandAll host final = .ok final
  full : ∀ address ∈ t.addresses, ∀ part ∈ t.at? address,
    ∃ new, expanded host final part = .ok new ∧ final.at? address = some new

/-- True of a tree that differs from another one at most in the texts that have
references there. -/
structure Agrees (host : Host) (t root : Tree) : Prop where
  alike : root.shape = t.shape
  plain : ∀ address ∈ t.addresses, ∀ part ∈ t.at? address, Plain host t part →
    root.at? address = some part

theorem located?_congr (alike : one.shape = other.shape) (name : String) :
    one.located? name = other.located? name := by
  have together (names : List String) : follow names one = follow names other := by
    rw [← follow_shape, alike, follow_shape]
  simp only [located?, together]

theorem resolve?_text (host : Host) (located : t.located? name = some place)
    (found : t.at? place = some part) (reads : part.written? = some s) : resolve? host t name = .ok (some s) := by
  rw [resolve?_of_located located found]
  cases part with
  | text | path =>
    cases reads
    rfl
  | none | flag | number | mode | list | table | «section» => cases reads

/-- A name that no reference plays a part in leads to the same while references
are replaced. -/
theorem resolve?_of_agrees (agrees : Agrees host t root)
    (apart : ∀ address ∈ t.used? name, ∀ other ∈ t.addresses, address <+: other →
      ∀ part ∈ t.at? other, Plain host t part) :
    resolve? host root name = resolve? host t name := by
  refine (resolve?_congr agrees.alike.symm fun address used => ?_).symm
  refine at?_congr agrees.alike.symm fun place listed inside => ?_
  obtain ⟨part, found⟩ := exists_at? listed
  rw [agrees.plain place listed part found (apart address used place listed inside part found),
    found]

theorem exists_text (listed : address ∈ t.addresses) :
    ∃ part s, t.at? address = some part ∧ part.written? = some s := by
  obtain ⟨part, found, isText⟩ := mem_addresses_iff.mp listed
  obtain ⟨s, reads, -⟩ := exists_written isText
  exact ⟨part, s, found, reads⟩

theorem resolve?_located_ne (alike : root.shape = t.shape) (listed : place ∈ t.addresses)
    (located : t.located? name = some place) : resolve? host root name ≠ .ok Option.none := by
  obtain ⟨part, s, found, reads⟩ := exists_text (addresses_congr alike ▸ listed)
  rw [resolve?_text host (located?_congr alike name ▸ located) found reads]
  simp

/-- Whether a simple name leads anywhere is not changed by replacing references. -/
theorem resolve?_eq_none_iff (agrees : Agrees host t root) (simple : Simple host t name) :
    resolve? host root name = .ok Option.none ↔ resolve? host t name = .ok Option.none := by
  rcases simple with ⟨place, listed, located⟩ | ⟨apart, -⟩
  · exact ⟨fun leads => absurd leads (resolve?_located_ne agrees.alike listed located),
      fun leads => absurd leads (resolve?_located_ne rfl listed located)⟩
  · rw [resolve?_of_agrees agrees apart]

theorem plain_congr (agrees : Agrees host t root)
    (simple : ∀ name ∈ part.names, Simple host t name) :
    Plain host root part ↔ Plain host t part :=
  forall₂_congr fun name there => resolve?_eq_none_iff agrees (simple name there)

/-! ## Along the pass -/

theorem agrees_self : Agrees host t t := ⟨rfl, fun _ _ _ found _ => found⟩

/-- A visit changes no text without references. -/
theorem agrees_of_visit (regular : Regular host t) (agrees : Agrees host t root)
    (listed : address ∈ t.addresses) {next : Tree} (visited : visit (resolve? host) root address = .ok next) :
    Agrees host t next := by
  refine ⟨shape_visit agrees.alike listed visited, fun place asked part found plain => ?_⟩
  have now := agrees.plain place asked part found plain
  by_cases same : place = address
  · subst same
    obtain ⟨old, new, there, done, rfl⟩ := exists_of_visit agrees.alike listed visited
    cases now.symm.trans there
    have simple := (regular place asked part found).1
    cases (expandedBy_self ((plain_congr agrees simple).mpr plain)).symm.trans done
    rw [modifyAt_eq_self there rfl, there]
  · rw [at?_visit_of_ne agrees.alike listed asked same visited, now]

theorem agrees_expandAll (regular : Regular host t) (replaced : expandAll host t = .ok final) :
    Agrees host t final :=
  foldlM_invariant (Agrees host t) (fun _ listed _ _ agrees visited =>
    agrees_of_visit regular agrees listed visited) agrees_self replaced

theorem Stage.agrees {mid : Tree} (stage : Stage host t final address mid)
    (last : Agrees host t final) : Agrees host t mid := by
  refine ⟨stage.alike, fun place asked part found plain => ?_⟩
  by_cases earlier : t.Before place address
  · rw [stage.finished place earlier, last.plain place asked part found plain]
  · rw [stage.untouched place asked earlier, found]

/-- What is to hold of a text in the end: it is its full expansion, it is shut, and
it refers to nothing any more. -/
structure Done (host : Host) (t final : Tree) (address : List Nat) : Prop where
  full : ∀ part ∈ t.at? address,
    ∃ new, expanded host final part = .ok new ∧ final.at? address = some new
  shut : ∀ part ∈ final.at? address, ∀ s ∈ part.written?, Shut s.toList
  settled : ∀ part ∈ final.at? address, Plain host final part

theorem done_of_plain (regular : Regular host t) (last : Agrees host t final)
    (listed : address ∈ t.addresses) (found : t.at? address = some part)
    (plain : Plain host t part) : Done host t final address := by
  have ⟨simple, tidy⟩ := regular address listed part found
  have still := (plain_congr last simple).mpr plain
  have same := last.plain address listed part found plain
  refine ⟨fun other there => ?_, fun other there s reads => ?_, fun other there => ?_⟩
  · cases found.symm.trans there
    exact ⟨part, expandedBy_self still, same⟩
  · cases same.symm.trans there
    exact (tidy s reads).shut
  · cases same.symm.trans there
    exact still

variable {mid : Tree}

/-- What a name of a text is replaced by when the text is visited is what it is
replaced by in the end, and it is shut and refers to nothing. -/
theorem Stage.value (stage : Stage host t final address mid) (last : Agrees host t final)
    (simple : Simple host t name)
    (back : ∀ other ∈ t.addresses, t.located? name = some other →
      mid.at? other = final.at? other ∧ Done host t final other) :
    resolve? host mid name = resolve? host final name ∧
      ∀ s, resolve? host final name = .ok (some s) →
        Shut s.toList ∧ ∀ inner ∈ mentioned s.toList,
          resolve? host final (String.ofList inner) = .ok Option.none := by
  rcases simple with ⟨place, listed, located⟩ | ⟨apart, closed⟩
  · obtain ⟨same, done⟩ := back place listed located
    obtain ⟨part, s, found, reads⟩ := exists_text (addresses_congr last.alike ▸ listed)
    have leads := resolve?_text host (located?_congr last.alike name ▸ located) found reads
    refine ⟨?_, fun s' leads' => ?_⟩
    · rw [leads]
      exact resolve?_text host (located?_congr stage.alike name ▸ located) (same.trans found) reads
    · cases leads.symm.trans leads'
      exact ⟨done.shut part found s reads, (forall_names_iff reads).mp (done.settled part found)⟩
  · have same := resolve?_of_agrees last apart
    refine ⟨(resolve?_of_agrees (stage.agrees last) apart).trans same.symm, fun s leads => ?_⟩
    rw [same] at leads
    have none := closed s (by rw [leads]; rfl)
    refine ⟨Reference.shut_of_not_mem none, ?_⟩
    rw [Reference.mentioned_of_not_mem none]
    exact fun _ there => absurd there List.not_mem_nil

/-- A text whose names all look back to texts that are done is done when it is
visited. -/
theorem Stage.done (stage : Stage host t final address mid) (regular : Regular host t)
    (last : Agrees host t final) (listed : address ∈ t.addresses)
    (back : ∀ part ∈ t.at? address, ∀ name ∈ part.names, ∀ other ∈ t.addresses,
      t.located? name = some other → mid.at? other = final.at? other ∧ Done host t final other) :
    Done host t final address := by
  obtain ⟨part, new, found, made, there⟩ := stage.filled
  have ⟨simple, tidy⟩ := regular address listed part found
  have values := fun name inside =>
    stage.value last (simple name inside) (back part found name inside)
  have full := expandedBy_congr (fun name inside => (values name inside).1) made
  have reads : ∃ s, part.written? = some s := by
    obtain ⟨other, s, same, reads⟩ := exists_text listed
    cases found.symm.trans same
    exact ⟨s, reads⟩
  obtain ⟨s, reads⟩ := reads
  obtain ⟨s', out, expands, newReads, mentions, keeps⟩ := exists_of_expandedBy reads full
  have texts := (forall_names_iff reads).mp fun name inside => (values name inside).2
  have tidyNow : Tidy (resolve? host final) s.toList := (tidy s reads).mono fun name inside leads =>
    (resolve?_eq_none_iff last ((forall_names_iff reads).mp simple name inside)).mpr leads
  obtain ⟨shut, remain⟩ := expands.shut tidyNow fun name inside text leads =>
    (texts name inside text leads).1
  refine ⟨fun other same => ?_, fun other same s reads => ?_, fun other same => ?_⟩
  · cases found.symm.trans same
    exact ⟨new, full, there⟩
  · cases there.symm.trans same
    cases newReads.symm.trans reads
    exact keeps shut
  · cases there.symm.trans same
    rw [Plain, forall_names_iff newReads, mentions]
    intro name inside
    cases remain name inside with
    | left _ leads => exact leads
    | put listed leads inner => exact (texts _ listed _ leads).2 name inner

/-- If all texts look back, every text is done in the end. -/
theorem done_of_looksBack (regular : Regular host t) (replaced : expandAll host t = .ok final)
    (back : LooksBack host t) : ∀ address ∈ t.addresses, Done host t final address := by
  have last := agrees_expandAll regular replaced
  refine before_induction fun address listed before => ?_
  obtain ⟨mid, stage⟩ := exists_stage replaced listed
  refine stage.done regular last listed fun part found name inside other asked located => ?_
  rcases back address listed part found name inside other asked located with earlier | plain
  · exact ⟨stage.finished other earlier, before other earlier⟩
  · obtain ⟨target, there⟩ := exists_at? asked
    have same := last.plain other asked target there (plain target there)
    have now := (stage.agrees last).plain other asked target there (plain target there)
    exact ⟨now.trans same.symm, done_of_plain regular last asked there (plain target there)⟩

theorem complete_of_done (replaced : expandAll host t = .ok final)
    (done : ∀ address ∈ t.addresses, Done host t final address) : Complete host t final := by
  have settled : ∀ address ∈ final.addresses, ∀ part ∈ final.at? address, Plain host final part :=
    fun address listed =>
      (done address (addresses_congr (shape_expandAll replaced) ▸ listed)).settled
  exact ⟨settled, expandAll_self settled, fun address listed => (done address listed).full⟩

/-- A text that looks ahead to a text with references has these references in the
end. -/
theorem looksBack_of_complete (regular : Regular host t) (replaced : expandAll host t = .ok final)
    (complete : Complete host t final) : LooksBack host t := by
  have last := agrees_expandAll regular replaced
  intro address listed part found name inside other asked located
  by_cases earlier : t.Before other address
  · exact Or.inl earlier
  refine Or.inr fun target there => ?_
  obtain ⟨mid, stage⟩ := exists_stage replaced listed
  obtain ⟨part', new, found', made, filled⟩ := stage.filled
  cases found.symm.trans found'
  obtain ⟨_, s, same, reads⟩ := exists_text listed
  cases found.symm.trans same
  obtain ⟨_, ahead, same, aheadReads⟩ := exists_text asked
  cases there.symm.trans same
  have now : mid.at? other = some target := (stage.untouched other asked earlier).trans there
  have leads := resolve?_text host (located?_congr stage.alike name ▸ located) now aheadReads
  obtain ⟨s', out, expands, newReads, mentions, -⟩ := exists_of_expandedBy reads made
  have settled := complete.settled address
    (addresses_congr (shape_expandAll replaced) ▸ listed) new filled
  rw [Plain, forall_names_iff newReads, mentions] at settled
  refine (plain_congr last (regular other asked target there).1).mp ?_
  rw [Plain, forall_names_iff aheadReads]
  obtain ⟨chars, listedChars, rfl⟩ : ∃ chars ∈ mentioned s.toList, String.ofList chars = name := by
    rw [names, reads] at inside
    exact List.mem_map.mp inside
  exact fun inner there => settled inner (expands.mentioned_of_put listedChars leads there)

end Tree

/-! ## Loaded settings -/

namespace Launch

/-- The references of loaded settings are all replaced exactly if each text looks
back. -/
theorem load_complete_iff {launch : Launch} {written settings : Settings}
    (read : launch.asWritten = .ok (.ok written)) (loaded : launch.load = .ok settings)
    (regular : Tree.Regular launch.host (.ofSettings launch.mayCheck written)) :
    Tree.Complete launch.host (.ofSettings launch.mayCheck written)
        (.ofSettings launch.mayCheck settings) ↔
      Tree.LooksBack launch.host (.ofSettings launch.mayCheck written) := by
  obtain ⟨other, same, done⟩ := load_eq_ok_iff.mp loaded
  cases read.symm.trans same
  have replaced := expandAll_of_substituted done
  exact ⟨Tree.looksBack_of_complete regular replaced, fun back =>
    Tree.complete_of_done replaced (Tree.done_of_looksBack regular replaced back)⟩

/-- Settings given directly, on a disk without files. -/
def ofConfig (config : List (String × Value)) : Launch where
  host := { directory := .ofText "/work", home := .ofText "/home/me" }
  disk := { files := [], directories := [.ofText "/work"] }
  given := [(.text "config", .record config)]

/-- A command in the directory, which is found in a section above it. -/
theorem load_complete_iff_command :
    let launch := ofConfig [
      ("git", .record [("workdir", .text "/srv/app")]),
      ("compiler", .record [("command", .text "\x7bconfig.git.workdir\x7d/node_modules/.bin/tsc")])]
    ∃ written settings, launch.asWritten = .ok (.ok written) ∧ launch.load = .ok settings ∧
      Tree.Regular launch.host (.ofSettings launch.mayCheck written) ∧
      Tree.Complete launch.host (.ofSettings launch.mayCheck written)
        (.ofSettings launch.mayCheck settings) ∧
      settings.config.compiler.command = "/srv/app/node_modules/.bin/tsc" := by
  intro launch
  have good : ∃ written ∈ launch.written?,
      Tree.Regular launch.host (.ofSettings launch.mayCheck written) ∧
        Tree.LooksBack launch.host (.ofSettings launch.mayCheck written) := by decide +kernel
  have done : ∃ settings ∈ launch.load.toOption,
      settings.config.compiler.command = "/srv/app/node_modules/.bin/tsc" := by decide +kernel
  obtain ⟨written, read, regular, back⟩ := good
  obtain ⟨settings, loaded, command⟩ := done
  rw [mem_written?_iff] at read
  rw [Include.mem_toOption_iff] at loaded
  exact ⟨written, settings, read, loaded, regular,
    (load_complete_iff read loaded regular).mpr back, command⟩

/-- A directory that names the command, which names the log level: the directory is
visited before the command is, and keeps a reference that resolves. -/
theorem load_ahead :
    let launch := ofConfig [
      ("git", .record [("workdir", .text "\x7bconfig.compiler.command\x7d")]),
      ("compiler", .record [("command", .text "\x7bconfig.log_level\x7d")])]
    ∃ settings, launch.load = .ok settings ∧ settings.config.logLevel = "info" ∧
      settings.config.compiler.command = "info" ∧
      settings.config.git.directory.text = "\x7bconfig.log_level\x7d" ∧
      Reference.resolve? launch.host (.ofSettings launch.mayCheck settings) "config.log_level" =
        .ok (some "info") := by
  intro launch
  have done : ∃ settings ∈ launch.load.toOption, settings.config.logLevel = "info" ∧
      settings.config.compiler.command = "info" ∧
      settings.config.git.directory.text = "\x7bconfig.log_level\x7d" ∧
      Reference.resolve? launch.host (.ofSettings launch.mayCheck settings) "config.log_level" =
        .ok (some "info") := by decide +kernel
  obtain ⟨settings, loaded, keeps⟩ := done
  exact ⟨settings, Include.mem_toOption_iff.mp loaded, keeps⟩

end Launch

end Ratchet
