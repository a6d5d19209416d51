import Mathlib.Data.List.Infix
import Mathlib.Data.List.Nodup
import Ratchet.Proofs.Settings.Mention

namespace Ratchet

namespace Tree

/-!
# The shape of a tree

Replacing references changes texts and paths and nothing else: the tree keeps
its shape, that is its sections, keys, lengths, numbers and truth values.  The
texts and paths are visited one after the other, each once and none inside
another one.  When one is visited, those before it are already as they will be
in the end and the others are as written.
-/

mutual

/-- A tree with all texts and paths made empty. -/
def shape : Tree → Tree
  | .text _ => .text ""
  | .path _ => .path ⟨.none, []⟩
  | .list items => .list (shapes items)
  | .table entries => .table (shapesIn entries)
  | .section name fields => .section name (shapesIn fields)
  | other => other

def shapes : List Tree → List Tree
  | [] => []
  | item :: rest => shape item :: shapes rest

def shapesIn : List (String × Tree) → List (String × Tree)
  | [] => []
  | (key, item) :: rest => (key, shape item) :: shapesIn rest

end

/-- True of texts and paths. -/
def isWritten : Tree → Bool
  | .text _ | .path _ => true
  | _ => false

theorem shapes_eq_map (items : List Tree) : shapes items = items.map shape := by
  induction items with
  | nil => rfl
  | cons item rest ih => rw [shapes, ih, List.map_cons]

theorem shapesIn_eq_map (entries : List (String × Tree)) :
    shapesIn entries = entries.map fun entry => (entry.1, shape entry.2) := by
  induction entries with
  | nil => rfl
  | cons entry rest ih => rw [shapesIn, ih, List.map_cons]

theorem children_shape (t : Tree) : t.shape.children = t.children.map shape := by
  cases t <;> simp [shape, children, shapes_eq_map, shapesIn_eq_map, Function.comp_def]

theorem at?_cons (position : Nat) (address : List Nat) (t : Tree) :
    at? (position :: address) t = (t.children[position]?).bind (at? address) := rfl

theorem at?_shape (address : List Nat) (t : Tree) :
    at? address t.shape = (at? address t).map shape := by
  induction address generalizing t with
  | nil => rfl
  | cons position address ih =>
    rw [at?_cons, at?_cons, children_shape, List.getElem?_map]
    cases t.children[position]? with
    | none => rfl
    | some part => exact ih part

/-! ## Addresses -/

theorem addressesIn_eq (position : Nat) (entries : List (String × Tree)) :
    addressesIn position entries = addressesOf position (entries.map Prod.snd) := by
  induction entries generalizing position with
  | nil => rfl
  | cons entry rest ih => rw [addressesIn, List.map_cons, addressesOf, ih]

theorem mem_addressesOf_iff {position : Nat} {items : List Tree} {address : List Nat} :
    address ∈ addressesOf position items ↔ ∃ i rest item,
      address = (position + i) :: rest ∧ items[i]? = some item ∧ rest ∈ addresses item := by
  induction items generalizing position with
  | nil => simp [addressesOf]
  | cons first others ih =>
    rw [addressesOf, List.mem_append, List.mem_map, ih]
    constructor
    · rintro (⟨rest, listed, rfl⟩ | ⟨i, rest, item, rfl, found, listed⟩)
      · exact ⟨0, rest, first, rfl, rfl, listed⟩
      · exact ⟨i + 1, rest, item, by rw [Nat.add_right_comm, Nat.add_assoc], found, listed⟩
    · rintro ⟨i, rest, item, rfl, found, listed⟩
      cases i with
      | zero =>
        cases found
        exact Or.inl ⟨rest, listed, rfl⟩
      | succ i =>
        refine Or.inr ⟨i, rest, item, ?_, found, listed⟩
        rw [Nat.add_right_comm, Nat.add_assoc]

theorem addresses_of_not_written {t : Tree} (composed : t.isWritten = false) :
    t.addresses = addressesOf 0 t.children := by
  cases t with
  | text | path => cases composed
  | none | flag | number | mode | list => rfl
  | table entries | «section» _ entries => exact addressesIn_eq 0 entries

theorem children_of_isWritten {t : Tree} (written : t.isWritten = true) : t.children = [] := by
  cases t with
  | text | path => rfl
  | none | flag | number | mode | list | table | «section» => cases written

/-- The addresses of a tree are those of its texts and paths. -/
theorem mem_addresses_iff {address : List Nat} {t : Tree} :
    address ∈ t.addresses ↔ ∃ part, at? address t = some part ∧ part.isWritten = true := by
  induction address generalizing t with
  | nil =>
    cases written : t.isWritten with
    | true => cases t <;> simp_all [addresses, at?, isWritten]
    | false => simp [addresses_of_not_written written, mem_addressesOf_iff, at?, written]
  | cons position address ih =>
    cases written : t.isWritten with
    | true =>
      rw [at?_cons, children_of_isWritten written]
      cases t <;> simp_all [addresses, isWritten]
    | false =>
      rw [addresses_of_not_written written, mem_addressesOf_iff, at?_cons]
      constructor
      · rintro ⟨i, rest, item, same, found, listed⟩
        rw [Nat.zero_add] at same
        obtain ⟨rfl, rfl⟩ := List.cons.inj same
        obtain ⟨part, there, inside⟩ := ih.mp listed
        exact ⟨part, by rw [found]; exact there, inside⟩
      · rintro ⟨part, there, inside⟩
        obtain ⟨item, found, there⟩ := Option.bind_eq_some_iff.mp there
        exact ⟨position, address, item, by rw [Nat.zero_add], found, ih.mpr ⟨part, there, inside⟩⟩

theorem exists_at? {address : List Nat} {t : Tree} (listed : address ∈ t.addresses) :
    ∃ part, at? address t = some part := by
  obtain ⟨part, found, -⟩ := mem_addresses_iff.mp listed
  exact ⟨part, found⟩

/-- No text or path lies inside another one. -/
theorem eq_of_prefixed {one other : List Nat} {t : Tree} (first : one ∈ t.addresses)
    (second : other ∈ t.addresses) (leads : one <+: other) : one = other := by
  induction one generalizing other t with
  | nil =>
    obtain ⟨part, found, written⟩ := mem_addresses_iff.mp first
    cases found
    obtain ⟨inner, there, -⟩ := mem_addresses_iff.mp second
    cases other with
    | nil => rfl
    | cons position rest =>
      rw [at?_cons, children_of_isWritten written] at there
      cases there
  | cons position one ih =>
    cases other with
    | nil => exact absurd (List.prefix_nil.mp leads) (List.cons_ne_nil _ _)
    | cons place other =>
      obtain ⟨rfl, further⟩ := List.cons_prefix_cons.mp leads
      obtain ⟨part, found, written⟩ := mem_addresses_iff.mp first
      obtain ⟨inner, there, inside⟩ := mem_addresses_iff.mp second
      rw [at?_cons, Option.bind_eq_some_iff] at found there
      obtain ⟨child, here, found⟩ := found
      obtain ⟨same, alike, there⟩ := there
      cases here.symm.trans alike
      rw [ih (mem_addresses_iff.mpr ⟨part, found, written⟩)
        (mem_addresses_iff.mpr ⟨inner, there, inside⟩) further]

/-- Addresses that start at one position are less than those that start behind
it. -/
theorem lt_of_mem_addressesOf {position : Nat} {rest : List Tree} {address behind : List Nat}
    (start : address.head? = some position) (listed : behind ∈ addressesOf (position + 1) rest) :
    address < behind := by
  obtain ⟨i, inner, part, rfl, -, -⟩ := mem_addressesOf_iff.mp listed
  obtain ⟨more, rfl⟩ := List.head?_eq_some_iff.mp start
  apply List.cons_lt_cons_iff.mpr
  omega

theorem sorted_append {position : Nat} {item : Tree} {rest : List Tree}
    (first : item.addresses.Pairwise (· < ·))
    (others : (addressesOf (position + 1) rest).Pairwise (· < ·)) :
    ((addresses item).map (position :: ·) ++ addressesOf (position + 1) rest).Pairwise
      (· < ·) := by
  refine List.pairwise_append.mpr ⟨?_, others, ?_⟩
  · exact first.map _ fun _ _ => List.cons_lt_cons_self.mpr
  · intro address inside behind listed
    obtain ⟨inner, -, rfl⟩ := List.mem_map.mp inside
    exact lt_of_mem_addressesOf rfl listed

mutual

/-- The texts and paths are in the order of their addresses. -/
theorem sorted_addresses : ∀ t : Tree, t.addresses.Pairwise (· < ·)
  | .none | .flag _ | .number _ | .mode _ => List.Pairwise.nil
  | .text _ | .path _ => List.pairwise_singleton _ _
  | .list items => sorted_addressesOf 0 items
  | .table entries | .section _ entries => sorted_addressesIn 0 entries

theorem sorted_addressesOf (position : Nat) : ∀ items : List Tree,
    (addressesOf position items).Pairwise (· < ·)
  | [] => List.Pairwise.nil
  | item :: rest => sorted_append (sorted_addresses item) (sorted_addressesOf (position + 1) rest)

theorem sorted_addressesIn (position : Nat) : ∀ entries : List (String × Tree),
    (addressesIn position entries).Pairwise (· < ·)
  | [] => List.Pairwise.nil
  | (_, item) :: rest => by
    have others := sorted_addressesIn (position + 1) rest
    rw [addressesIn_eq] at others
    rw [addressesIn, addressesIn_eq]
    exact sorted_append (sorted_addresses item) others

end

theorem nodup_addresses (t : Tree) : t.addresses.Nodup := by
  apply (sorted_addresses t).imp
  rintro address _ less rfl
  exact List.lt_irrefl address less

mutual

/-- Trees of one shape have their texts and paths at the same addresses. -/
theorem addresses_shape : ∀ t : Tree, t.shape.addresses = t.addresses
  | .none | .flag _ | .number _ | .mode _ | .text _ | .path _ => rfl
  | .list items => addressesOf_shapes 0 items
  | .table entries | .section _ entries => addressesIn_shapesIn 0 entries

theorem addressesOf_shapes (position : Nat) : ∀ items : List Tree,
    addressesOf position (shapes items) = addressesOf position items
  | [] => rfl
  | item :: rest => by
    rw [shapes, addressesOf, addressesOf, addresses_shape item,
      addressesOf_shapes (position + 1) rest]

theorem addressesIn_shapesIn (position : Nat) : ∀ entries : List (String × Tree),
    addressesIn position (shapesIn entries) = addressesIn position entries
  | [] => rfl
  | (_, item) :: rest => by
    rw [shapesIn, addressesIn, addressesIn, addresses_shape item,
      addressesIn_shapesIn (position + 1) rest]

end

theorem addresses_congr {one other : Tree} (same : one.shape = other.shape) :
    one.addresses = other.addresses := by
  rw [← addresses_shape one, same, addresses_shape]

theorem same_below {one other : Tree} (composed : one.isWritten = false)
    (same : ∀ address ∈ one.addresses, at? address one = at? address other)
    (i : Nat) (item : Tree) (found : one.children[i]? = some item) (address : List Nat)
    (listed : address ∈ item.addresses) :
    at? address item = other.children[i]?.bind (at? address) := by
  have here := same (i :: address) (by
    rw [addresses_of_not_written composed, mem_addressesOf_iff]
    exact ⟨i, address, item, by rw [Nat.zero_add], found, listed⟩)
  rwa [at?_cons, at?_cons, found] at here

mutual

/-- Trees of one shape with the same texts and paths are the same. -/
theorem eq_of_shape : ∀ {one other : Tree}, one.shape = other.shape →
    (∀ address ∈ one.addresses, at? address one = at? address other) → one = other
  | .none, other, alike, _ | .flag _, other, alike, _ | .number _, other, alike, _
  | .mode _, other, alike, _ => by cases other <;> first | exact alike | cases alike
  | .text _, _, _, same | .path _, _, _, same =>
    Option.some.inj (same [] (List.mem_singleton_self _))
  | .list items, other, alike, same => by
    cases other with
    | list others =>
      rw [shape, shape, list.injEq] at alike
      rw [eq_of_shapes alike (same_below rfl same)]
    | none | flag | number | mode | text | path | table | «section» => cases alike
  | .table entries, other, alike, same => by
    cases other with
    | table others =>
      rw [shape, shape, table.injEq] at alike
      rw [eq_of_shapesIn alike (same_below rfl same)]
    | none | flag | number | mode | text | path | list | «section» => cases alike
  | .section name entries, other, alike, same => by
    cases other with
    | «section» other others =>
      rw [shape, shape, section.injEq] at alike
      rw [alike.1, eq_of_shapesIn alike.2 (same_below rfl same)]
    | none | flag | number | mode | text | path | list | table => cases alike

theorem eq_of_shapes : ∀ {items others : List Tree}, shapes items = shapes others →
    (∀ (i : Nat) item, items[i]? = some item → ∀ address ∈ item.addresses,
      at? address item = others[i]?.bind (at? address)) → items = others
  | [], [], _, _ => rfl
  | item :: rest, other :: others, alike, same => by
    rw [shapes, shapes, List.cons.injEq] at alike
    rw [eq_of_shape alike.1 (same 0 item rfl),
      eq_of_shapes alike.2 fun i item found => same (i + 1) item found]

theorem eq_of_shapesIn : ∀ {entries others : List (String × Tree)},
    shapesIn entries = shapesIn others →
    (∀ (i : Nat) item, (entries.map Prod.snd)[i]? = some item → ∀ address ∈ item.addresses,
      at? address item = (others.map Prod.snd)[i]?.bind (at? address)) → entries = others
  | [], [], _, _ => rfl
  | (key, item) :: rest, (_, other) :: others, alike, same => by
    rw [shapesIn, shapesIn, List.cons.injEq, Prod.mk.injEq] at alike
    rw [alike.1.1, eq_of_shape alike.1.2 (same 0 item rfl),
      eq_of_shapesIn alike.2 fun i item found => same (i + 1) item found]

end

theorem at?_append (address inner : List Nat) (t : Tree) :
    at? (address ++ inner) t = (at? address t).bind (at? inner) := by
  induction address generalizing t with
  | nil => rfl
  | cons position address ih =>
    rw [List.cons_append, at?_cons, at?_cons, Option.bind_assoc]
    exact congrArg _ (funext ih)

/-- A part is known by its shape and the texts and paths in it. -/
theorem at?_congr {one other : Tree} {address : List Nat} (alike : one.shape = other.shape)
    (same : ∀ place ∈ one.addresses, address <+: place → at? place one = at? place other) :
    at? address one = at? address other := by
  have parts : (at? address one).map shape = (at? address other).map shape := by
    rw [← at?_shape, alike, at?_shape]
  cases first : at? address one with
  | none =>
    rw [first] at parts
    exact (Option.map_eq_none_iff.mp parts.symm).symm
  | some part =>
    rw [first] at parts
    obtain ⟨counterpart, second, alikePart⟩ := Option.map_eq_some_iff.mp parts.symm
    rw [second, eq_of_shape alikePart.symm fun inner listed => ?_]
    obtain ⟨text, found, isText⟩ := mem_addresses_iff.mp listed
    have whole : at? (address ++ inner) one = some text := by rw [at?_append, first]; exact found
    have there := same (address ++ inner) (mem_addresses_iff.mpr ⟨text, whole, isText⟩)
      (List.prefix_append _ _)
    rwa [at?_append, at?_append, first, second] at there

/-- One text or path comes before another one when all are visited in order. -/
def Before (t : Tree) (one other : List Nat) : Prop :=
  one ∈ t.addresses.takeWhile (· != other)

instance (t : Tree) (one other : List Nat) : Decidable (t.Before one other) :=
  inferInstanceAs (Decidable (one ∈ _))

/-! ## Changing one part -/

theorem children_modifyAt (f : Tree → Tree) (position : Nat) (address : List Nat) (t : Tree) :
    (modifyAt f (position :: address) t).children =
      t.children.modify position (modifyAt f address) := by
  have entries (es : List (String × Tree)) :
      (es.modify position fun entry => (entry.1, modifyAt f address entry.2)).map Prod.snd =
        (es.map Prod.snd).modify position (modifyAt f address) := by
    apply List.ext_getElem?
    intro i
    simp only [List.getElem?_map, List.getElem?_modify]
    cases es[i]? with
    | none => rfl
    | some entry => by_cases here : position = i <;> simp [here]
  cases t with
  | none | flag | number | mode | text | path => simp [modifyAt, children]
  | list => rfl
  | table es | «section» _ es => exact entries es

theorem at?_modifyAt_self {f : Tree → Tree} {address : List Nat} {t part : Tree}
    (found : at? address t = some part) :
    at? address (modifyAt f address t) = some (f part) := by
  induction address generalizing t with
  | nil =>
    cases found
    rfl
  | cons position address ih =>
    rw [at?_cons, Option.bind_eq_some_iff] at found
    obtain ⟨child, here, found⟩ := found
    rw [at?_cons, children_modifyAt, List.getElem?_modify, here]
    simpa using ih found

theorem at?_modifyAt_of_apart {f : Tree → Tree} {address other : List Nat} {t : Tree}
    (notAbove : ¬ address <+: other) (notBelow : ¬ other <+: address) :
    at? other (modifyAt f address t) = at? other t := by
  induction address generalizing other t with
  | nil => exact absurd List.nil_prefix notAbove
  | cons position address ih =>
    cases other with
    | nil => exact absurd List.nil_prefix notBelow
    | cons place other =>
      rw [at?_cons, at?_cons, children_modifyAt, List.getElem?_modify]
      by_cases same : position = place
      · subst same
        rw [List.prefix_cons_inj] at notAbove notBelow
        cases t.children[position]? with
        | none => rfl
        | some child => simpa using ih notAbove notBelow
      · cases t.children[place]? <;> simp [same]

/-- A change of one item that a view does not see. -/
theorem map_modify_of_eq {α β : Type} (view : α → β) {f : α → α} {position : Nat} (items : List α)
    (same : ∀ item, items[position]? = some item → view (f item) = view item) :
    (items.modify position f).map view = items.map view := by
  apply List.ext_getElem?
  intro i
  rw [List.getElem?_map, List.getElem?_map, List.getElem?_modify]
  cases found : items[i]? with
  | none => rfl
  | some item =>
    by_cases here : position = i
    · simp [here, same item (here ▸ found)]
    · simp [here]

theorem shape_modifyAt {f : Tree → Tree} {address : List Nat} {t part : Tree}
    (found : at? address t = some part) (same : (f part).shape = part.shape) :
    (modifyAt f address t).shape = t.shape := by
  induction address generalizing t with
  | nil =>
    cases found
    exact same
  | cons position address ih =>
    rw [at?_cons, Option.bind_eq_some_iff] at found
    obtain ⟨child, here, found⟩ := found
    have below : ∀ item, t.children[position]? = some item →
        (modifyAt f address item).shape = item.shape :=
      fun item there => Option.some_inj.mp (here.symm.trans there) ▸ ih found
    cases t with
    | none | flag | number | mode | text | path => rfl
    | list items =>
      rw [modifyAt, shape, shape, shapes_eq_map, shapes_eq_map,
        map_modify_of_eq shape items below]
    | table entries | «section» _ entries =>
      simp only [modifyAt, shape, shapesIn_eq_map]
      rw [map_modify_of_eq]
      rintro ⟨key, item⟩ there
      simp only [below item (by simp [children, there])]

theorem modifyAt_eq_self {f : Tree → Tree} {address : List Nat} {t part : Tree}
    (found : at? address t = some part) (same : f part = part) :
    modifyAt f address t = t := by
  induction address generalizing t with
  | nil =>
    cases found
    exact same
  | cons position address ih =>
    rw [at?_cons, Option.bind_eq_some_iff] at found
    obtain ⟨child, here, found⟩ := found
    have below : ∀ item, t.children[position]? = some item → modifyAt f address item = item :=
      fun item there => Option.some_inj.mp (here.symm.trans there) ▸ ih found
    cases t with
    | none | flag | number | mode | text | path => rfl
    | list items =>
      have unchanged := map_modify_of_eq id items below
      rw [List.map_id, List.map_id] at unchanged
      rw [modifyAt, unchanged]
    | table entries | «section» _ entries =>
      have unchanged :
          (entries.modify position fun entry => (entry.1, modifyAt f address entry.2)).map id =
            entries.map id := by
        refine map_modify_of_eq id entries ?_
        rintro ⟨key, item⟩ there
        simp only [id, below item (by simp [children, there])]
      rw [List.map_id, List.map_id] at unchanged
      rw [modifyAt, unchanged]

/-! ## Visiting all texts -/

/-- What each step of a fold keeps holds in the end. -/
theorem foldlM_invariant {α β ε : Type} {f : β → α → Except ε β} (holds : β → Prop)
    {items : List α} {first last : β}
    (step : ∀ item ∈ items, ∀ before after, holds before → f before item = .ok after → holds after)
    (start : holds first) (run : items.foldlM f first = .ok last) : holds last := by
  induction items generalizing first with
  | nil =>
    cases run
    exact start
  | cons item rest ih =>
    rw [List.foldlM_cons] at run
    obtain ⟨next, made, run⟩ := Reference.bind_eq_ok_iff.mp run
    exact ih (fun other inside => step other (List.mem_cons_of_mem item inside))
      (step item List.mem_cons_self first next start made) run

/-- Replaces the references of the text or path at an address. -/
def visit (resolver : Reference.Resolver) (root : Tree) (address : List Nat) :
    Except Reference.Failure Tree :=
  match root.at? address with
  | some part =>
    (expandedBy (resolver root) part).map fun new => modifyAt (fun _ => new) address root
  | Option.none => .ok root

theorem expandAllBy_eq (resolver : Reference.Resolver) (t : Tree) :
    expandAllBy resolver t = t.addresses.foldlM (visit resolver) t := rfl

theorem shape_expandedBy {resolve : String → Except Reference.Failure (Option String)}
    {part new : Tree} (done : expandedBy resolve part = .ok new) : new.shape = part.shape := by
  cases part with
  | none | flag | number | mode | list | table | «section» =>
    cases done
    rfl
  | text s =>
    obtain ⟨s', -, rfl⟩ := Reference.map_eq_ok_iff.mp done
    rfl
  | path p =>
    obtain ⟨s, -, rfl⟩ := Reference.map_eq_ok_iff.mp done
    split <;> rfl

variable {resolver : Reference.Resolver} {host : Host} {t root next final : Tree}
  {address other : List Nat}

/-- A visit fills one address. -/
theorem exists_of_visit (alike : root.shape = t.shape) (listed : address ∈ t.addresses)
    (visited : visit resolver root address = .ok next) :
    ∃ part new, at? address root = some part ∧ expandedBy (resolver root) part = .ok new ∧
      next = modifyAt (fun _ => new) address root := by
  obtain ⟨part, found⟩ := exists_at? (addresses_congr alike ▸ listed)
  rw [visit, found] at visited
  obtain ⟨new, done, rfl⟩ := Reference.map_eq_ok_iff.mp visited
  exact ⟨part, new, found, done, rfl⟩

theorem shape_visit (alike : root.shape = t.shape) (listed : address ∈ t.addresses)
    (visited : visit resolver root address = .ok next) : next.shape = t.shape := by
  obtain ⟨part, new, found, done, rfl⟩ := exists_of_visit alike listed visited
  exact (shape_modifyAt found (shape_expandedBy done)).trans alike

/-- A visit leaves all other texts and paths alone. -/
theorem at?_visit_of_ne (alike : root.shape = t.shape) (listed : address ∈ t.addresses)
    (asked : other ∈ t.addresses) (apart : other ≠ address)
    (visited : visit resolver root address = .ok next) : at? other next = at? other root := by
  obtain ⟨part, new, found, done, rfl⟩ := exists_of_visit alike listed visited
  exact at?_modifyAt_of_apart (fun leads => apart (eq_of_prefixed listed asked leads).symm)
    (fun leads => apart (eq_of_prefixed asked listed leads))

/-- Visiting some texts changes no others. -/
theorem frame_of_visits {pending : List (List Nat)} (alike : root.shape = t.shape)
    (listed : pending ⊆ t.addresses) (visited : pending.foldlM (visit resolver) root = .ok final) :
    final.shape = t.shape ∧
      ∀ other ∈ t.addresses, other ∉ pending → at? other final = at? other root := by
  refine foldlM_invariant (fun now => now.shape = t.shape ∧
    ∀ other ∈ t.addresses, other ∉ pending → at? other now = at? other root) ?_
    ⟨alike, fun _ _ _ => rfl⟩ visited
  rintro address inside now after ⟨alike, same⟩ done
  refine ⟨shape_visit alike (listed inside) done, fun other asked apart => ?_⟩
  have others : other ≠ address := fun equal => apart (equal ▸ inside)
  rw [at?_visit_of_ne alike (listed inside) asked others done]
  exact same other asked apart

theorem shape_expandAll (replaced : expandAll host t = .ok final) : final.shape = t.shape :=
  (frame_of_visits rfl (List.Subset.refl _) replaced).1

/-- The tree as it is when one text is visited: those before it are final, it and
those behind it are as written. -/
structure Stage (host : Host) (t final : Tree) (address : List Nat) (mid : Tree) : Prop where
  alike : mid.shape = t.shape
  finished : ∀ other, t.Before other address → at? other mid = at? other final
  untouched : ∀ other ∈ t.addresses, ¬ t.Before other address → at? other mid = at? other t
  filled : ∃ part new, at? address t = some part ∧ expanded host mid part = .ok new ∧
    at? address final = some new

theorem before_iff_of_split {before after : List (List Nat)}
    (split : t.addresses = before ++ address :: after) :
    t.Before other address ↔ other ∈ before := by
  have once := nodup_addresses t
  rw [split, List.nodup_append'] at once
  have fresh : ∀ one ∈ before, (one != address) = true := fun one inside => by
    simpa using fun same : one = address => once.2.2 (same ▸ inside) List.mem_cons_self
  rw [Before, split, List.takeWhile_append_of_pos fresh]
  simp

/-- One text comes before another one if its address is less. -/
theorem before_of_lt (listed : address ∈ t.addresses) (asked : other ∈ t.addresses)
    (less : other < address) : t.Before other address := by
  obtain ⟨before, after, split⟩ := List.append_of_mem listed
  rw [before_iff_of_split split]
  have sorted := sorted_addresses t
  rw [split, List.pairwise_append, List.pairwise_cons] at sorted
  rw [split, List.mem_append, List.mem_cons] at asked
  rcases asked with inside | rfl | behind
  · exact inside
  · exact absurd less (List.lt_irrefl _)
  · exact absurd (sorted.2.1.1 other behind) (List.lt_asymm less)

/-- What holds of a text if it holds of all before it holds of every text. -/
theorem before_induction {P : List Nat → Prop}
    (step : ∀ address ∈ t.addresses, (∀ other, t.Before other address → P other) → P address) :
    ∀ address ∈ t.addresses, P address := by
  have front (before : List (List Nat)) : ∀ after, t.addresses = before ++ after →
      ∀ address ∈ before, P address := by
    induction before using List.reverseRecOn with
    | nil => exact fun _ _ _ there => absurd there List.not_mem_nil
    | append_singleton before last ih =>
      intro after split
      rw [List.append_assoc, List.singleton_append] at split
      have earlier := ih _ split
      rw [List.forall_mem_append, List.forall_mem_singleton]
      refine ⟨earlier, step last (by simp [split]) fun other isBefore => earlier other ?_⟩
      exact (before_iff_of_split split).mp isBefore
  exact front t.addresses [] (List.append_nil _).symm

theorem exists_stage (replaced : expandAll host t = .ok final) (listed : address ∈ t.addresses) :
    ∃ mid, Stage host t final address mid := by
  obtain ⟨before, after, split⟩ := List.append_of_mem listed
  have once := nodup_addresses t
  rw [split, List.nodup_append', List.nodup_cons] at once
  obtain ⟨-, ⟨notBehind, -⟩, apart⟩ := once
  have inside {pending : List (List Nat)} (leads : pending ⊆ before ++ address :: after) :
      pending ⊆ t.addresses := split ▸ leads
  rw [expandAll, expandAllBy_eq, split, List.foldlM_append] at replaced
  obtain ⟨mid, early, late⟩ := Reference.bind_eq_ok_iff.mp replaced
  rw [List.foldlM_cons] at late
  obtain ⟨next, now, later⟩ := Reference.bind_eq_ok_iff.mp late
  obtain ⟨alike, early⟩ := frame_of_visits rfl (inside (List.subset_append_left _ _)) early
  obtain ⟨-, late⟩ := frame_of_visits alike (inside (List.subset_append_right _ _)) late
  obtain ⟨-, later⟩ := frame_of_visits (shape_visit alike listed now)
    (inside fun _ there => List.mem_append_right _ (List.mem_cons_of_mem _ there)) later
  have fresh : address ∉ before := fun there => apart there List.mem_cons_self
  obtain ⟨part, new, found, done, rfl⟩ := exists_of_visit alike listed now
  refine ⟨mid, alike, fun other earlier => ?_, fun other asked notEarlier => ?_, part, new, ?_,
    done, ?_⟩
  · rw [before_iff_of_split split] at earlier
    have asked : other ∈ t.addresses := split ▸ List.mem_append_left _ earlier
    exact (late other asked (apart earlier)).symm
  · exact early other asked (notEarlier ∘ (before_iff_of_split split).mpr)
  · rw [← early address listed fresh, found]
  · rw [later address listed notBehind, at?_modifyAt_self found]

/-- A text is replaced from the tree as it is when it is visited. -/
theorem Stage.expands {mid : Tree} (stage : Stage host t final address mid) {s s' : String}
    (start : at? address t = some (.text s))
    (there : at? address final = some (.text s')) :
    Reference.Expands (Reference.resolve? host mid) s.toList s'.toList := by
  obtain ⟨part, new, found, made, filled⟩ := stage.filled
  cases start.symm.trans found
  cases there.symm.trans filled
  obtain ⟨out, replaced, same⟩ := Reference.map_eq_ok_iff.mp made
  cases same
  exact Reference.expandBy_eq_ok_iff.mp replaced

end Tree

end Ratchet
