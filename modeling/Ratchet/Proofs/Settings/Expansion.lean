import Ratchet.Proofs.Fallible
import Ratchet.Proofs.Settings.Substitution

namespace Ratchet

/-!
# What replacing references changes

Replacing references visits the texts and paths of a tree in order, and nothing
else is changed.  What a visit makes of a text is told by one pass over its
characters, from the tree as it is at that moment: what was visited before is as it
will be in the end, and all the rest is as it was written.  A name that leads
nowhere is left, but there is a third thing that a name may do, and that is to fail.
The first such name ends everything, and no text is left as it was.  All this is so
however names are looked up.
-/

namespace Reference

variable {resolve : String → Except Failure (Option String)} {failure : Failure}

/-- Why something failed, if it did. -/
def failed? {ε α : Type} : Except ε α → Option ε
  | .error failure => some failure
  | .ok _ => none

theorem failed?_eq_some_iff {ε α : Type} {x : Except ε α} {error : ε} :
    failed? x = some error ↔ x = .error error := by
  cases x <;> simp [failed?]

/-- Replacing the references of a text fails for the first of its names that does. -/
theorem expandWithin_eq_error_iff {fuel : Nat} {cs : List Char} (enough : cs.length ≤ fuel) :
    expandWithin resolve fuel cs = .error failure ↔
      (mentioned cs).findSome? (fun name => failed? (resolve (String.ofList name))) =
        some failure := by
  induction fuel generalizing cs with
  | zero =>
    cases List.length_eq_zero_iff.mp (Nat.le_zero.mp enough)
    simp [expandWithin, mentioned]
  | succ fuel ih =>
    cases cs with
    | nil => simp [expandWithin, mentioned]
    | cons c rest =>
      rw [List.length_cons, Nat.succ_le_succ_iff] at enough
      rcases reference_or_plain c rest with ⟨name, after, isName, rfl, rfl⟩ | opens
      · have shorter : after.length ≤ fuel := by
          rw [List.length_append, List.length_cons] at enough
          omega
        rw [expandWithin_reference isName, bind_eq_error_iff, mentioned_reference isName,
          List.findSome?_cons]
        simp only [map_eq_error_iff, ih shorter]
        cases resolve (String.ofList name) <;> simp [failed?]
      · have none : (if c = '{' then ((name? rest).map Prod.fst).toList else []) = [] := by
          split
          · next brace => rw [opens brace]; rfl
          · rfl
        rw [expandWithin_plain opens, map_eq_error_iff, ih enough, mentioned, none,
          List.nil_append]

theorem expandBy_eq_error_iff {s : String} :
    expandBy resolve s = .error failure ↔
      (mentioned s.toList).findSome? (fun name => failed? (resolve (String.ofList name))) =
        some failure := by
  rw [expandBy, map_eq_error_iff, expandWithin_eq_error_iff s.length_toList.le]

end Reference

namespace Tree

open Reference (Expands Failure Resolver failed? resolve?)

variable {resolver : Resolver} {resolve : String → Except Failure (Option String)}
  {t final now mid part new : Tree} {address other last : List Nat} {visited : List (List Nat)}
  {failure : Failure}

/-! ## One text -/

/-- A text or path, and what one pass over its characters makes of it.  A path whose
characters are the same after the pass is not made again. -/
inductive Renews (resolve : String → Except Failure (Option String)) : Tree → Tree → Prop
  | text {s s' : String} (expands : Expands resolve s.toList s'.toList) :
      Renews resolve (.text s) (.text s')
  | path {p : Path} {s' : String} (expands : Expands resolve p.text.toList s'.toList) :
      Renews resolve (.path p) (.path (if s' = p.text then p else .ofText s'))

/-- The failure of the first name of a part that fails. -/
def failure? (resolve : String → Except Failure (Option String)) (part : Tree) : Option Failure :=
  part.names.findSome? fun name => failed? (resolve name)

theorem expandedBy_eq_ok_iff (isText : part.isWritten = true) :
    expandedBy resolve part = .ok new ↔ Renews resolve part new := by
  constructor
  · intro done
    cases part with
    | text s =>
      rcases Reference.map_eq_ok_iff.mp done with ⟨s', replaced, rfl⟩
      exact .text (Reference.expandBy_eq_ok_iff.mp replaced)
    | path p =>
      rcases Reference.map_eq_ok_iff.mp done with ⟨s', replaced, rfl⟩
      rw [← apply_ite Tree.path]
      exact .path (Reference.expandBy_eq_ok_iff.mp replaced)
    | none | flag | number | mode | list | table | «section» => cases isText
  · rintro (expands | expands)
    · rw [expandedBy, Reference.expandBy_eq_ok_iff.mpr expands]
      rfl
    · rw [expandedBy, Reference.expandBy_eq_ok_iff.mpr expands, apply_ite Tree.path]
      rfl

theorem expandedBy_eq_error_iff (isText : part.isWritten = true) :
    expandedBy resolve part = .error failure ↔ failure? resolve part = some failure := by
  cases part with
  | text | path =>
    rw [expandedBy, map_eq_error_iff, Reference.expandBy_eq_error_iff, failure?, names,
      written?, List.findSome?_map]
    rfl
  | none | flag | number | mode | list | table | «section» => cases isText

/-! ## All texts -/

/-- The tree as it is when one text is visited, told from what the texts before it
have become. -/
structure Moment (t now : Tree) (address : List Nat) (mid : Tree) : Prop where
  alike : mid.shape = t.shape
  finished : ∀ other, t.Before other address → mid.at? other = now.at? other
  untouched : ∀ other ∈ t.addresses, ¬ t.Before other address → mid.at? other = t.at? other

/-- A tree some of whose texts have been visited.  It has kept its shape, that is its
sections, keys, lengths and all values but texts and paths; the other texts are as
they were, and each text that was visited is renewed from the tree of its moment. -/
structure Renewed (resolver : Resolver) (t : Tree) (visited : List (List Nat)) (now : Tree) : Prop where
  alike : now.shape = t.shape
  untouched : ∀ other ∈ t.addresses, other ∉ visited → now.at? other = t.at? other
  renewed : ∀ address ∈ visited, ∃ mid part new, Moment t now address mid ∧
    t.at? address = some part ∧ Renews (resolver mid) part new ∧ now.at? address = some new

theorem Moment.congr {after : Tree} (moment : Moment t now address mid)
    (same : ∀ other, t.Before other address → now.at? other = after.at? other) :
    Moment t after address mid :=
  ⟨moment.alike, fun other earlier => (moment.finished other earlier).trans (same other earlier),
    moment.untouched⟩

theorem Moment.unique {one two : Tree} (first : Moment t now address one)
    (second : Moment t now address two) : one = two := by
  refine eq_of_shape (first.alike.trans second.alike.symm) fun other asked => ?_
  rw [addresses_congr first.alike] at asked
  by_cases earlier : t.Before other address
  · rw [first.finished other earlier, second.finished other earlier]
  · rw [first.untouched other asked earlier, second.untouched other asked earlier]

theorem isWritten_of_mem (listed : address ∈ t.addresses) (found : t.at? address = some part) :
    part.isWritten = true := by
  rcases mem_addresses_iff.mp listed with ⟨other, there, isText⟩
  cases found.symm.trans there
  exact isText

theorem mem_of_before {pending : List (List Nat)} (split : t.addresses = visited ++ pending)
    (there : address ∈ visited) (earlier : t.Before other address) : other ∈ visited := by
  rcases List.append_of_mem there with ⟨front, rest, rfl⟩
  rw [List.append_assoc, List.cons_append] at split
  exact List.mem_append_left _ ((before_iff_of_split split).mp earlier)

theorem fresh_of_split {pending : List (List Nat)}
    (split : t.addresses = visited ++ last :: pending) : last ∉ visited := fun there => by
  have once := nodup_addresses t
  rw [split, List.nodup_append'] at once
  exact once.2.2 there List.mem_cons_self

/-- A visit renews one more text. -/
theorem Renewed.append {pending : List (List Nat)} (renewed : Renewed resolver t visited mid)
    (split : t.addresses = visited ++ last :: pending) (done : visit resolver mid last = .ok now) :
    Renewed resolver t (visited ++ [last]) now := by
  have listed : last ∈ t.addresses := by simp [split]
  have fresh := fresh_of_split split
  have kept {other : List Nat} (asked : other ∈ t.addresses) (apart : other ≠ last) :
      now.at? other = mid.at? other := at?_visit_of_ne renewed.alike listed asked apart done
  have early {other : List Nat} (there : other ∈ visited) : mid.at? other = now.at? other :=
    (kept (by simp [split, there]) fun same => fresh (same ▸ there)).symm
  refine ⟨shape_visit renewed.alike listed done, fun other asked apart => ?_, fun address there => ?_⟩
  · rw [List.mem_append, List.mem_singleton, not_or] at apart
    rw [kept asked apart.2, renewed.untouched other asked apart.1]
  · rcases List.mem_append.mp there with inside | here
    · rcases renewed.renewed address inside with ⟨before, part, new, moment, found, renews, becomes⟩
      exact ⟨before, part, new, moment.congr fun other earlier =>
        early (mem_of_before split inside earlier), found, renews, (early inside).symm.trans becomes⟩
    · cases List.mem_singleton.mp here
      rcases exists_of_visit renewed.alike listed done with ⟨part, new, there, made, rfl⟩
      have found := (renewed.untouched last listed fresh).symm.trans there
      refine ⟨mid, part, new, ⟨renewed.alike, fun other earlier => ?_, fun other asked notEarlier => ?_⟩,
        found, (expandedBy_eq_ok_iff (isWritten_of_mem listed found)).mp made, at?_modifyAt_self there⟩
      · exact early ((before_iff_of_split split).mp earlier)
      · exact renewed.untouched other asked (notEarlier ∘ (before_iff_of_split split).mpr)

/-- The last text that is renewed was renewed by a visit. -/
theorem Renewed.exists_of_append {pending : List (List Nat)}
    (renewed : Renewed resolver t (visited ++ [last]) now)
    (split : t.addresses = visited ++ last :: pending) :
    ∃ mid, Renewed resolver t visited mid ∧ visit resolver mid last = .ok now := by
  have listed : last ∈ t.addresses := by simp [split]
  have fresh := fresh_of_split split
  rcases renewed.renewed last (List.mem_append_right _ (List.mem_singleton_self last)) with
    ⟨mid, part, new, moment, found, renews, becomes⟩
  have early {other : List Nat} (there : other ∈ visited) : now.at? other = mid.at? other :=
    (moment.finished other ((before_iff_of_split split).mpr there)).symm
  have late {other : List Nat} (asked : other ∈ t.addresses) (apart : other ∉ visited) :
      mid.at? other = t.at? other :=
    moment.untouched other asked (apart ∘ (before_iff_of_split split).mp)
  have here : mid.at? last = some part := (late listed fresh).trans found
  have done : visit resolver mid last = .ok (modifyAt (fun _ => new) last mid) := by
    simp only [visit, here, (expandedBy_eq_ok_iff (isWritten_of_mem listed found)).mpr renews,
      Except.map]
  refine ⟨mid, ⟨moment.alike, fun other => late, fun address there => ?_⟩, ?_⟩
  · rcases renewed.renewed address (List.mem_append_left _ there) with
      ⟨before, part, new, moment, found, renews, becomes⟩
    exact ⟨before, part, new, moment.congr fun other earlier =>
      early (mem_of_before split there earlier), found, renews, (early there).symm.trans becomes⟩
  · -- Both trees have one shape, and a text is the new one, or an earlier one, or as it was.
    have alike := shape_visit moment.alike listed done
    refine done.trans (congrArg Except.ok (eq_of_shape (alike.trans renewed.alike.symm)
      fun other asked => ?_))
    rw [addresses_congr alike] at asked
    by_cases same : other = last
    · rw [same, at?_modifyAt_self here, becomes]
    · rw [at?_visit_of_ne moment.alike listed asked same done]
      by_cases there : other ∈ visited
      · exact (early there).symm
      · rw [late asked there, renewed.untouched other asked (by simp [there, same])]

/-- Visiting the texts from the first one on. -/
theorem visits_eq_ok_iff {pending : List (List Nat)} (split : t.addresses = visited ++ pending) :
    visited.foldlM (visit resolver) t = .ok now ↔ Renewed resolver t visited now := by
  induction visited using List.reverseRecOn generalizing now pending with
  | nil =>
    constructor
    · intro same
      cases same
      exact ⟨rfl, fun _ _ _ => rfl, fun _ listed => absurd listed List.not_mem_nil⟩
    · intro renewed
      refine congrArg Except.ok (eq_of_shape renewed.alike.symm fun other asked => ?_)
      exact (renewed.untouched other asked List.not_mem_nil).symm
  | append_singleton visited last ih =>
    rw [List.append_assoc, List.singleton_append] at split
    rw [List.foldlM_append, Reference.bind_eq_ok_iff]
    simp only [ih split, List.foldlM_cons, List.foldlM_nil, bind_pure]
    exact ⟨fun ⟨_, renewed, done⟩ => renewed.append split done,
      fun renewed => renewed.exists_of_append split⟩

/-- A visit fails for the first name that does. -/
theorem visit_eq_error_iff (alike : mid.shape = t.shape) (listed : address ∈ t.addresses) :
    visit resolver mid address = .error failure ↔
      ∃ part, mid.at? address = some part ∧ failure? (resolver mid) part = some failure := by
  rcases mem_addresses_iff.mp (addresses_congr alike ▸ listed) with ⟨part, found, isText⟩
  rw [visit, found]
  dsimp only
  rw [map_eq_error_iff, expandedBy_eq_error_iff isText]
  simp

/-- Replacing the references of a tree renews every text and path from the tree of its
moment and changes nothing else; those none of whose names leads anywhere at that
moment stay.  It fails exactly if a name fails when its text is visited, for the first
such name, and else there is a result.  What names lead to is whatever the look-up says
at that moment. -/
theorem expandAllBy_renewed (resolver : Resolver) (t : Tree) :
    (∀ final, expandAllBy resolver t = .ok final ↔ Renewed resolver t t.addresses final) ∧
      (∀ final, Renewed resolver t t.addresses final → ∀ address ∈ t.addresses, ∀ part mid,
        t.at? address = some part → Moment t final address mid →
          (∀ name ∈ part.names, resolver mid name = .ok Option.none) →
            final.at? address = some part) ∧
      ∀ failure, expandAllBy resolver t = .error failure ↔ ∃ visited address pending mid part,
        t.addresses = visited ++ address :: pending ∧ Renewed resolver t visited mid ∧
          t.at? address = some part ∧ failure? (resolver mid) part = some failure := by
  refine ⟨fun final => ?_, fun final renewed address listed part mid found moment nowhere => ?_,
    fun failure => ?_⟩
  · exact visits_eq_ok_iff (List.append_nil _).symm
  · rcases renewed.renewed address listed with ⟨mid', part', new, moment', found', renews, becomes⟩
    cases moment'.unique moment
    cases found'.symm.trans found
    have same := (expandedBy_eq_ok_iff (isWritten_of_mem listed found)).mpr renews
    cases (expandedBy_self nowhere).symm.trans same
    exact becomes
  · rw [expandAllBy_eq, foldlM_eq_error_iff]
    constructor
    · rintro ⟨visited, address, pending, mid, split, run, fails⟩
      have renewed := (visits_eq_ok_iff split).mp run
      have listed : address ∈ t.addresses := by simp [split]
      rcases (visit_eq_error_iff renewed.alike listed).mp fails with ⟨part, here, first⟩
      refine ⟨visited, address, pending, mid, part, split, renewed, ?_, first⟩
      rw [← renewed.untouched address listed (fresh_of_split split), here]
    · rintro ⟨visited, address, pending, mid, part, split, renewed, found, first⟩
      have listed : address ∈ t.addresses := by simp [split]
      refine ⟨visited, address, pending, mid, split, (visits_eq_ok_iff split).mpr renewed, ?_⟩
      refine (visit_eq_error_iff renewed.alike listed).mpr ⟨part, ?_, first⟩
      rw [renewed.untouched address listed (fresh_of_split split), found]

/-- The first text names the one behind it, whose reference is put in as it stands, and
a name that leads nowhere, which stays.  The last text names the first one and finds
it done. -/
theorem expandAllBy_renewed_ahead :
    let host : Host := { directory := .ofText "/work", home := .ofText "/home/me" }
    let t : Tree := .section "State"
      [("one", .text "\x7btwo\x7d and \x7bref\x7d"), ("two", .text "<\x7bthree\x7d>"),
        ("three", .path (.ofText "/srv/\x7bone\x7d")), ("four", .number 4)]
    ∃ final, expandAllBy (resolve? host) t = .ok final ∧
      Renewed (resolve? host) t t.addresses final ∧
      final.inText = "one='<\x7bthree\x7d> and \x7bref\x7d' two='</srv/\x7bone\x7d>' " ++
        "three=PosixPath('/srv/<\x7bthree\x7d> and \x7bref\x7d') four=4" := by
  intro host t
  have done : ∃ final ∈ (expandAllBy (resolve? host) t).toOption, final.inText =
      "one='<\x7bthree\x7d> and \x7bref\x7d' two='</srv/\x7bone\x7d>' " ++
        "three=PosixPath('/srv/<\x7bthree\x7d> and \x7bref\x7d') four=4" := by
    decide +kernel
  rcases done with ⟨final, replaced, shown⟩
  rw [Include.mem_toOption_iff] at replaced
  exact ⟨final, replaced, ((expandAllBy_renewed (resolve? host) t).1 final).mp replaced, shown⟩

end Tree

namespace Launch

/-- Loaded settings are the settings as written with their texts and paths renewed. -/
theorem renewed_of_load {launch : Launch} {written settings : Settings}
    (read : launch.asWritten = .ok (.ok written)) (loaded : launch.load = .ok settings) :
    Tree.Renewed (Reference.resolve? launch.host) (.ofSettings launch.mayCheck written)
      (Tree.ofSettings launch.mayCheck written).addresses
      (.ofSettings launch.mayCheck settings) := by
  rcases load_eq_ok_iff.mp loaded with ⟨other, same, done⟩
  cases read.symm.trans same
  exact (Tree.visits_eq_ok_iff (List.append_nil _).symm).mp (expandAll_of_substituted done)

/-- Settings whose references cannot be replaced are not loaded. -/
theorem load_of_failure {launch : Launch} {written : Settings} {failure : Reference.Failure}
    (read : launch.asWritten = .ok (.ok written))
    (fails : Tree.expandAll launch.host (.ofSettings launch.mayCheck written) = .error failure)
    (malformed : failure.isMalformed = true) :
    launch.load = .error (.invalid [⟨.stated failure.message, []⟩]) := by
  rw [load_eq, read]
  simp only [bind, Except.bind, substituted, fails, malformed]
  rfl

/-- A command that names an operation of the table of commands, which fails where it is
applied: no settings are loaded, though the name has no text to be replaced by. -/
theorem load_failing_name :
    let launch := ofConfig [
      ("compiler", .record [("command", .text "\x7bconfig.commands.update\x7d")])]
    ∃ written, launch.asWritten = .ok (.ok written) ∧
      written.config.compiler.command = "\x7bconfig.commands.update\x7d" ∧
      Reference.resolve? launch.host (.ofSettings launch.mayCheck written)
        "config.commands.update" = .error .tableUpdate ∧
      launch.load = .error (.invalid [⟨.stated Reference.Failure.tableUpdate.message, []⟩]) := by
  intro launch
  have good : ∃ written ∈ launch.written?,
      written.config.compiler.command = "\x7bconfig.commands.update\x7d" ∧
        Reference.resolve? launch.host (.ofSettings launch.mayCheck written)
          "config.commands.update" = .error .tableUpdate ∧
        Reference.failed? (Tree.expandAll launch.host (.ofSettings launch.mayCheck written)) =
          some .tableUpdate := by decide +kernel
  rcases good with ⟨written, read, command, fails, ends⟩
  rw [mem_written?_iff] at read
  rw [Reference.failed?_eq_some_iff] at ends
  exact ⟨written, read, command, fails, load_of_failure read ends rfl⟩

end Launch

end Ratchet
