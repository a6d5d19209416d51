import Ratchet.Number.Binary
import Ratchet.Calendar

namespace Ratchet

/-!
# Document values

What a settings document holds: scalars, lists, mappings and sets.  A mapping
keeps its keys in the order in which they first appeared.  Keys are scalars,
and two numbers that are equal are the same key whatever their kind, so that
`1`, `1.0` and `true` name one entry.  Likewise two moments are the same key if
they are equal in universal time.
-/

/-- A value without parts. -/
inductive Scalar where
  | null
  | bool (b : Bool)
  | int (i : Int)
  | float (x : Binary)
  | text (s : String)
  | date (d : Date)
  | moment (m : Moment)
  | bytes (octets : List Nat)
  deriving DecidableEq, Inhabited

namespace Scalar

/-- The representative of the scalars that are the same key. -/
def canonical : Scalar → Scalar
  | .bool b => .int (if b then 1 else 0)
  | .float x => match x.toInt? with
    | some i => .int i
    | none => .float x
  | .moment m => .moment m.universal
  | other => other

/-- True when two scalars name the same entry of a mapping. -/
def sameKey (a b : Scalar) : Bool :=
  a.canonical == b.canonical

theorem sameKey_iff {a b : Scalar} : sameKey a b = true ↔ a.canonical = b.canonical := by
  simp [sameKey]

/-- Text keys are the same only when the texts are. -/
theorem sameKey_text {s t : String} : sameKey (.text s) (.text t) = true ↔ s = t := by
  simp [sameKey, canonical]

end Scalar

/-- A document value. -/
inductive Value where
  | scalar (s : Scalar)
  | list (items : List Value)
  | map (entries : List (Scalar × Value))
  | set (members : List Scalar)
  deriving Inhabited

/-- The entries of a mapping, in the order of their keys' first appearance. -/
abbrev Mapping := List (Scalar × Value)

namespace Value

@[match_pattern] abbrev null : Value := .scalar .null
@[match_pattern] abbrev bool (b : Bool) : Value := .scalar (.bool b)
@[match_pattern] abbrev int (i : Int) : Value := .scalar (.int i)
@[match_pattern] abbrev float (x : Binary) : Value := .scalar (.float x)
@[match_pattern] abbrev text (s : String) : Value := .scalar (.text s)

/-- A mapping with text keys. -/
def record (entries : List (String × Value)) : Value :=
  .map (entries.map fun (key, value) => (.text key, value))

/-- A list of texts. -/
def texts (items : List String) : Value :=
  .list (items.map .text)

/-- True of the values that count as nothing: null, false, zero and whatever
is empty. -/
def isEmpty : Value → Bool
  | .scalar .null => true
  | .scalar (.bool b) => !b
  | .scalar (.int i) => i == 0
  | .scalar (.float x) => x.isFinite && x.significand == 0
  | .scalar (.text s) => s == ""
  | .scalar (.bytes octets) => octets.isEmpty
  | .scalar _ => false
  | .list items => items.isEmpty
  | .map entries => entries.isEmpty
  | .set members => members.isEmpty

/-- True of mappings. -/
def isMap : Value → Bool
  | .map _ => true
  | _ => false

end Value

namespace Mapping

/-- The value of a key. -/
def get? (key : Scalar) : Mapping → Option Value
  | [] => none
  | (k, v) :: rest => if Scalar.sameKey k key then some v else get? key rest

/-- Sets the value of a key, which keeps its place and its spelling if it is
there already and comes last otherwise. -/
def put (key : Scalar) (value : Value) : Mapping → Mapping
  | [] => [(key, value)]
  | (k, v) :: rest =>
    if Scalar.sameKey k key then (k, value) :: rest else (k, v) :: put key value rest

/-- Every entry but those of one key. -/
def without (key : Scalar) (entries : Mapping) : Mapping :=
  entries.filter fun entry => !Scalar.sameKey entry.1 key

/-- The value of a text key. -/
def field? (key : String) (entries : Mapping) : Option Value :=
  get? (.text key) entries

/-- The keys, in order. -/
def keys (entries : Mapping) : List Scalar :=
  entries.map Prod.fst

/-- A mapping in which of several entries with one key the last one wins. -/
def ofEntries (entries : List (Scalar × Value)) : Mapping :=
  entries.foldl (fun built (key, value) => put key value built) []

theorem get?_put (key other : Scalar) (value : Value) (entries : Mapping) :
    get? other (put key value entries) =
      if Scalar.sameKey key other then some value else get? other entries := by
  induction entries with
  | nil => simp [put, get?]
  | cons entry rest ih =>
    obtain ⟨k, v⟩ := entry
    simp only [Scalar.sameKey] at ih ⊢
    by_cases same : k.canonical = key.canonical <;>
      by_cases asked : k.canonical = other.canonical <;>
      by_cases direct : key.canonical = other.canonical <;>
      simp_all [put, get?, Scalar.sameKey]

end Mapping

end Ratchet
