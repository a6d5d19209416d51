import Ratchet.Proofs.Settings.Substitution
import Ratchet.Proofs.Template.Filling

namespace Ratchet

/-!
# Fields among references

Some settings are templates, which are filled after their references have been
replaced.  References and fields are written alike, and they are told apart by
their names alone: the fields are no names of settings, so they are left where
they are.
-/

/-- What can be the name in a reference can be the name of a field. -/
theorem Reference.proper_of_isName {name : List Char} (isName : Reference.IsName name) :
    (Template.Fragment.field name).Proper := by
  obtain ⟨some, letters⟩ := isName
  refine ⟨some, fun c inside listed => ?_⟩
  simp only [List.mem_cons, List.not_mem_nil, or_false] at listed
  rcases listed with rfl | rfl | rfl | rfl | rfl <;>
    exact absurd (letters _ inside) (by decide)

/-- The fields of the templates among the settings. -/
def fieldNames : List String := ["log_root", "run_name", "ref", "target", "base", "head"]

namespace Launch

open Reference (resolve?)

variable {written : Settings}

/-- The fields of templates are no names of settings. -/
theorem resolve?_of_field (host : Host) {root : Tree} {mayCheck : Bool}
    (alike : root.shape = (Tree.ofSettings mayCheck written).shape) {name : String}
    (listed : name ∈ fieldNames) : resolve? host root name = .ok none := by
  obtain ⟨fields, rfl, same⟩ := Tree.exists_fields alike
  have keys : fields.map Prod.fst ⊆ ["config", "include", "check"] := by
    have names := congrArg (List.map Prod.fst) same
    simp only [Tree.shapesIn_eq_map, List.map_map, Function.comp_def] at names
    rw [names]
    cases mayCheck <;> simp
  have absent (name : String) (other : name ∉ ["config", "include", "check"]) :
      fields.lookup name = none := by
    rw [List.lookup_eq_none_iff]
    intro entry listed
    rw [bne_iff_ne]
    rintro rfl
    exact other (keys (List.mem_map_of_mem listed))
  have alone : ∀ name ∈ fieldNames, Text.pieces '.' name = [name] := by
    decide +kernel
  rw [resolve?, alone name listed]
  have nowhere : Reference.target?
      (.section (if mayCheck then "CliState" else "State") fields) [name] = none := by
    simp only [fieldNames, List.mem_cons, List.not_mem_nil, or_false] at listed
    rcases listed with rfl | rfl | rfl | rfl | rfl | rfl <;> cases mayCheck <;>
      simp [Reference.target?, Reference.step?, absent, Reference.sectionStep?,
        Reference.sectionKindStep?]
  have notOfMachine : ∀ name ∈ fieldNames, Reference.isOfMachine [name] = false := by decide
  rw [nowhere, Reference.furtherText?, alone name listed, notOfMachine name listed]
  rfl

end Launch

end Ratchet
