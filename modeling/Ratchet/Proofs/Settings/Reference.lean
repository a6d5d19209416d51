import Ratchet.Proofs.Settings.Tree

namespace Ratchet

namespace Tree

open Reference (resolve?)

/-!
# Where names lead

A dotted name leads along the fields of sections as far as it can, and then to
something that is known of the part reached there.  So it depends on that one
part only; and of a section that has no such field it does not depend at all,
unless the table of its fields is asked for.
-/

/-- The field of a name, with its position. -/
def fieldAt? (name : String) : List (String × Tree) → Option (Nat × Tree)
  | [] => Option.none
  | (key, part) :: rest =>
    if name == key then some (0, part)
    else (fieldAt? name rest).map fun (i, found) => (i + 1, found)

/-- How far fields of sections lead along some names: the address that is
reached, and the names that are left. -/
def follow : List String → Tree → List Nat × List String
  | [], _ => ([], [])
  | name :: rest, .section _ fields =>
    match fieldAt? name fields with
    | some (i, part) => (i :: (follow rest part).1, (follow rest part).2)
    | Option.none => ([], name :: rest)
  | names, _ => ([], names)

theorem lookup_eq (name : String) (fields : List (String × Tree)) :
    fields.lookup name = (fieldAt? name fields).map Prod.snd := by
  induction fields with
  | nil => rfl
  | cons field rest ih =>
    rw [List.lookup_cons, fieldAt?, ih]
    cases name == field.1 with
    | true => rfl
    | false => cases fieldAt? name rest <;> rfl

theorem getElem?_of_fieldAt? {name : String} {fields : List (String × Tree)} {i : Nat} {part : Tree}
    (found : fieldAt? name fields = some (i, part)) :
    (fields.map Prod.snd)[i]? = some part := by
  induction fields generalizing i with
  | nil => cases found
  | cons field rest ih =>
    rw [fieldAt?] at found
    split at found
    · cases found
      rfl
    · obtain ⟨⟨j, other⟩, inside, same⟩ := Option.map_eq_some_iff.mp found
      cases same
      exact ih inside

theorem key_of_fieldAt? {name : String} {fields : List (String × Tree)} {i : Nat} {part : Tree}
    (found : fieldAt? name fields = some (i, part)) :
    (fields.map Prod.fst)[i]? = some name := by
  induction fields generalizing i with
  | nil => cases found
  | cons field rest ih =>
    rw [fieldAt?] at found
    split at found
    · next same =>
      cases found
      exact congrArg some (eq_of_beq same).symm
    · obtain ⟨⟨j, other⟩, inside, same⟩ := Option.map_eq_some_iff.mp found
      cases same
      exact ih inside

theorem fieldAt?_shapesIn (name : String) (fields : List (String × Tree)) :
    fieldAt? name (shapesIn fields) =
      (fieldAt? name fields).map fun found => (found.1, found.2.shape) := by
  induction fields with
  | nil => rfl
  | cons field rest ih =>
    rw [shapesIn, fieldAt?, fieldAt?, ih]
    split
    · rfl
    · cases fieldAt? name rest <;> rfl

theorem follow_shape (names : List String) (t : Tree) : follow names t.shape = follow names t := by
  induction names generalizing t with
  | nil => rfl
  | cons name rest ih =>
    cases t with
    | none | flag | number | mode | text | path | list | table => rfl
    | «section» kind fields =>
      rw [shape, follow, follow, fieldAt?_shapesIn]
      cases fieldAt? name fields with
      | none => rfl
      | some found => simp only [Option.map_some, ih]

/-- The fields that names lead along need not be looked at one by one. -/
theorem foldlM_step?_eq (names : List String) (t : Tree) :
    names.foldlM Reference.step? (.part t) =
      (at? (follow names t).1 t).bind fun part =>
        (follow names t).2.foldlM Reference.step? (.part part) := by
  induction names generalizing t with
  | nil => rfl
  | cons name rest ih =>
    cases t with
    | none | flag | number | mode | text | path | list | table => rfl
    | «section» kind fields =>
      rw [follow]
      cases found : fieldAt? name fields with
      | none => rfl
      | some place =>
        have next : Reference.step? (.part (.section kind fields)) name = some (.part place.2) := by
          rw [Reference.step?, lookup_eq, found]
          rfl
        rw [List.foldlM_cons, next, at?_cons, children, getElem?_of_fieldAt? found]
        exact ih place.2

/-- Names stop at a section only if it has no such field. -/
theorem lookup_of_follow {names left : List String} {t : Tree} {address : List Nat} {name : String}
    (stops : follow names t = (address, name :: left)) {kind : String}
    {fields : List (String × Tree)} (there : at? address t = some (.section kind fields)) :
    fields.lookup name = Option.none := by
  induction names generalizing t address with
  | nil => cases stops
  | cons first rest ih =>
    cases t with
    | none | flag | number | mode | text | path | list | table =>
      cases stops
      cases there
    | «section» other inner =>
      rw [follow] at stops
      cases found : fieldAt? first inner with
      | none =>
        rw [found] at stops
        cases stops
        cases there
        rw [lookup_eq, found, Option.map_none]
      | some place =>
        rw [found] at stops
        obtain ⟨rfl, later⟩ := Prod.mk.inj stops
        rw [at?_cons, children, getElem?_of_fieldAt? found] at there
        exact ih (Prod.ext rfl later) there

/-- The names of a dotted name that are about the settings themselves. -/
def ownNames? (dotted : String) : Option (List String) :=
  match Text.pieces '.' dotted with
  | "os" :: _ | "platformdirs" :: _ => Option.none
  | names => some names

/-- The address of the part that a dotted name is the name of. -/
def located? (t : Tree) (dotted : String) : Option (List Nat) :=
  (ownNames? dotted).bind fun names =>
    if (follow names t).2.isEmpty then some (follow names t).1 else Option.none

/-- The address, if the part at it decides where the names that are left lead.  Of
a section only its table of fields does. -/
def decisive? (t : Tree) (address : List Nat) : List String → Option (List Nat)
  | [] => some address
  | name :: _ =>
    match at? address t with
    | some (.section ..) => if name = "__dict__" then some address else Option.none
    | _ => some address

theorem eq_of_decisive? {t : Tree} {address place : List Nat} {left : List String}
    (decides : decisive? t address left = some place) : place = address := by
  unfold decisive? at decides
  split at decides
  · exact (Option.some.inj decides).symm
  · split at decides
    · split at decides
      · exact (Option.some.inj decides).symm
      · cases decides
    · exact (Option.some.inj decides).symm

/-- The address of the part of the settings that decides where a dotted name
leads. -/
def used? (t : Tree) (dotted : String) : Option (List Nat) :=
  (ownNames? dotted).bind fun names => decisive? t (follow names t).1 (follow names t).2

variable {host : Host} {t root final one other : Tree} {address : List Nat} {dotted : String}

theorem target?_of_ownNames {names : List String} (own : ownNames? dotted = some names) :
    Reference.target? root (Text.pieces '.' dotted) =
      names.foldlM Reference.step? (.part root) := by
  unfold ownNames? at own
  unfold Reference.target?
  split at own
  · cases own
  · cases own
  · next notSystem notPlaces =>
    cases own
    split
    · next same => exact absurd same (notSystem _)
    · next same => exact absurd same (notPlaces _)
    · next same => exact absurd same (notPlaces _)
    · rfl

theorem resolve?_of_located (located : located? root dotted = some address) {part : Tree}
    (there : at? address root = some part) :
    resolve? host root dotted = .ok (some part.inText) := by
  obtain ⟨names, own, located⟩ := Option.bind_eq_some_iff.mp located
  obtain ⟨all, reached⟩ := Option.ite_none_right_eq_some.mp located
  cases reached
  rw [resolve?, target?_of_ownNames own, foldlM_step?_eq, there, List.isEmpty_iff.mp all]
  rfl

theorem lookup_map_shape {fields others : List (String × Tree)}
    (alike : shapesIn fields = shapesIn others) (name : String) :
    (fields.lookup name).map shape = (others.lookup name).map shape := by
  have same : (fieldAt? name fields).map (fun found => (found.1, found.2.shape)) =
      (fieldAt? name others).map fun found => (found.1, found.2.shape) := by
    rw [← fieldAt?_shapesIn, alike, fieldAt?_shapesIn]
  have parts := congrArg (Option.map Prod.snd) same
  rw [lookup_eq, lookup_eq]
  simpa [Option.map_map, Function.comp_def] using parts

/-- Whether the fields of a section say that it is not enabled. -/
def isOff (fields : List (String × Tree)) : Bool :=
  match fields.lookup "enabled" with
  | some (.flag b) => !b
  | _ => false

theorem isOff_congr {fields others : List (String × Tree)}
    (alike : shapesIn fields = shapesIn others) : isOff fields = isOff others := by
  have same := lookup_map_shape alike "enabled"
  unfold isOff
  cases one : fields.lookup "enabled" with
  | none =>
    rw [one] at same
    rw [Option.map_eq_none_iff.mp same.symm]
  | some part =>
    rw [one] at same
    obtain ⟨other, two, alikePart⟩ := Option.map_eq_some_iff.mp same.symm
    rw [two]
    cases part <;> cases other <;> first | rfl | cases alikePart
    rfl

/-- What is known of a section besides its fields does not depend on its texts, but
for the table of its fields. -/
theorem sectionStep?_congr {kind name : String} {fields others : List (String × Tree)}
    (alike : shapesIn fields = shapesIn others) (notTable : name ≠ "__dict__") :
    Reference.sectionStep? kind fields name = Reference.sectionStep? kind others name := by
  have switch := isOff_congr alike
  unfold Reference.sectionStep?
  dsimp only
  split
  · rfl
  · exact absurd rfl notTable
  · rfl
  · rfl
  · exact congrArg (fun off : Bool =>
      if kind = "ConsoleSink" || kind = "FileSink" && off then some Reference.Target.nothing
      else Option.none) switch
  · exact congrArg (fun off : Bool =>
      if kind = "FileSink" && off then some Reference.Target.nothing else Option.none) switch
  · rfl

/-- The step into a section of which only other things are asked. -/
theorem step?_section {kind name : String} {fields : List (String × Tree)}
    (noField : fields.lookup name = Option.none) :
    Reference.step? (.part (.section kind fields)) name =
      Reference.sectionStep? kind fields name := by
  rw [Reference.step?, noField]

theorem steps_congr {names left : List String}
    (alike : one.shape = other.shape) (reached : follow names one = (address, left))
    (same : ∀ place ∈ decisive? one address left, at? place one = at? place other) :
    ((at? address one).bind fun part => left.foldlM Reference.step? (.part part)) =
      (at? address other).bind fun part => left.foldlM Reference.step? (.part part) := by
  cases left with
  | nil => rw [same address rfl]
  | cons name more =>
    rw [decisive?] at same
    split at same
    · next kind fields there =>
      split at same
      · rw [same address rfl]
      · next notTable =>
        have alikePart :
            (at? address other).map shape = some (.section kind (shapesIn fields)) := by
          rw [← at?_shape, ← alike, at?_shape, there]
          rfl
        obtain ⟨part, found, alikePart⟩ := Option.map_eq_some_iff.mp alikePart
        obtain ⟨others, rfl, alikeFields⟩ :=
          exists_fields (show part.shape = (.section kind fields : Tree).shape from alikePart)
        have together : follow names other = (address, name :: more) := by
          rw [← follow_shape, ← alike, follow_shape, reached]
        rw [there, found, Option.bind_some, Option.bind_some, List.foldlM_cons, List.foldlM_cons,
          step?_section (lookup_of_follow reached there),
          step?_section (lookup_of_follow together found), sectionStep?_congr alikeFields notTable]
    · rw [same address rfl]

theorem target?_of_no_ownNames (own : ownNames? dotted = Option.none) (one other : Tree) :
    Reference.target? one (Text.pieces '.' dotted) =
      Reference.target? other (Text.pieces '.' dotted) := by
  unfold ownNames? at own
  split at own
  · next heads =>
    rw [heads]
    rfl
  · next rest heads =>
    rw [heads]
    cases rest <;> rfl
  · cases own

/-- A dotted name leads to the same in trees of one shape that do not differ in the
part that decides about it. -/
theorem resolve?_congr (alike : one.shape = other.shape)
    (same : ∀ address ∈ used? one dotted, at? address one = at? address other) :
    resolve? host one dotted = resolve? host other dotted := by
  suffices reached : Reference.target? one (Text.pieces '.' dotted) =
      Reference.target? other (Text.pieces '.' dotted) by
    rw [resolve?, resolve?, reached]
  cases own : ownNames? dotted with
  | none => exact target?_of_no_ownNames own one other
  | some names =>
    have together : follow names other = follow names one := by
      rw [← follow_shape, ← alike, follow_shape]
    rw [used?, own, Option.bind_some] at same
    rw [target?_of_ownNames own, target?_of_ownNames own, foldlM_step?_eq, foldlM_step?_eq,
      together]
    exact steps_congr alike rfl same

end Tree

end Ratchet
