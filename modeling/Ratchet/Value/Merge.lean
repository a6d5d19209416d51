import Ratchet.Value

namespace Ratchet

/-!
# Merging mappings

One mapping laid over another.  Where both hold a mapping under one key the
two are merged in turn; everywhere else the upper value replaces the lower
one.  The lower mapping's keys keep their places, and new keys follow in the
upper mapping's order.
-/

mutual

/-- The entries of `upper` laid over those of `lower`. -/
def Mapping.merge (lower : Mapping) : Mapping → Mapping
  | [] => lower
  | (key, value) :: rest =>
    Mapping.merge (Mapping.put key (Value.over (Mapping.get? key lower) value) lower) rest

/-- A value laid over the one that was there before. -/
def Value.over (current : Option Value) : Value → Value
  | .map entries =>
    match current with
    | some (.map lower) => .map (Mapping.merge lower entries)
    | _ => .map entries
  | other => other

end

namespace Mapping

@[simp] theorem merge_nil (lower : Mapping) : merge lower [] = lower := by
  simp [merge]

theorem merge_cons (lower : Mapping) (key : Scalar) (value : Value) (rest : Mapping) :
    merge lower ((key, value) :: rest) =
      merge (put key (Value.over (get? key lower) value) lower) rest := by
  simp [merge]

/-- All layers over one another, the first one lowest. -/
def layered (layers : List Mapping) : Mapping :=
  layers.foldl merge []

/-- The value at a path of keys. -/
def at? : List Scalar → Mapping → Option Value
  | [], entries => some (.map entries)
  | [key], entries => get? key entries
  | key :: path, entries =>
    match get? key entries with
    | some (.map inner) => at? path inner
    | _ => none

end Mapping

end Ratchet
