namespace Ratchet

/-!
# Strictness

The compiler's switches that make up the enforced rules.  A switch that is on
becomes an argument; one that is off is left out, so that the project's own
configuration decides.
-/

/-- One switch. -/
inductive Toggle where
  | noImplicitAny
  | noImplicitThis
  | alwaysStrict
  | strictBindCallApply
  | strictNullChecks
  | strictFunctionTypes
  | strictPropertyInitialization
  | noEmit
  deriving DecidableEq, Inhabited

namespace Toggle

/-- Every switch, in the order in which arguments are given. -/
def all : List Toggle :=
  [.noImplicitAny, .noImplicitThis, .alwaysStrict, .strictBindCallApply, .strictNullChecks,
    .strictFunctionTypes, .strictPropertyInitialization, .noEmit]

/-- The compiler's name for a switch, which settings use too. -/
def flag : Toggle → String
  | .noImplicitAny => "noImplicitAny"
  | .noImplicitThis => "noImplicitThis"
  | .alwaysStrict => "alwaysStrict"
  | .strictBindCallApply => "strictBindCallApply"
  | .strictNullChecks => "strictNullChecks"
  | .strictFunctionTypes => "strictFunctionTypes"
  | .strictPropertyInitialization => "strictPropertyInitialization"
  | .noEmit => "noEmit"

/-- The other name that settings may use. -/
def field : Toggle → String
  | .noImplicitAny => "no_implicit_any"
  | .noImplicitThis => "no_implicit_this"
  | .alwaysStrict => "always_strict"
  | .strictBindCallApply => "strict_bind_call_apply"
  | .strictNullChecks => "strict_null_checks"
  | .strictFunctionTypes => "strict_function_types"
  | .strictPropertyInitialization => "strict_property_initialization"
  | .noEmit => "no_emit"

theorem mem_all (toggle : Toggle) : toggle ∈ all := by
  cases toggle <;> decide

end Toggle

/-- Which switches are on. -/
structure Strictness where
  enabled : Toggle → Bool

namespace Strictness

/-- Every switch on. -/
def full : Strictness := ⟨fun _ => true⟩

instance : Inhabited Strictness := ⟨full⟩

/-- The arguments for the compiler. -/
def arguments (s : Strictness) : List String :=
  (Toggle.all.filter s.enabled).map fun toggle => "--" ++ toggle.flag

end Strictness

end Ratchet
