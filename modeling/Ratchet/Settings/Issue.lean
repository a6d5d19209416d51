import Ratchet.Value

namespace Ratchet

/-!
# Issues

What can be wrong with a value that is to become part of the settings, and
where in the value it is.  Reading a value collects every issue of its parts,
in the order of the parts, instead of stopping at the first.
-/

/-- One step into a value on the way to an issue. -/
inductive Place where
  | field (name : String)
  | index (position : Int)
  deriving DecidableEq

/-- What is wrong with a value. -/
inductive Fault where
  | missing
  | extra
  | key
  | text
  | list
  | set
  | mapping
  | path
  | model (name : String)
  | boolean
  | booleanForm
  | integer
  | integerForm
  | integerSize
  | fraction
  | notFinite
  | choice (choices : List String)
  | noTag (tag : String)
  | unknownTag (tag found : String) (expected : List String)
  | attributes
  | stated (reason : String)
  deriving DecidableEq

namespace Fault

/-- The kind of a fault. -/
def kind : Fault → String
  | .missing => "missing"
  | .extra => "extra_forbidden"
  | .key => "invalid_key"
  | .text => "string_type"
  | .list => "list_type"
  | .set => "set_type"
  | .mapping => "dict_type"
  | .path => "path_type"
  | .model _ => "model_type"
  | .boolean => "bool_type"
  | .booleanForm => "bool_parsing"
  | .integer => "int_type"
  | .integerForm => "int_parsing"
  | .integerSize => "int_parsing_size"
  | .fraction => "int_from_float"
  | .notFinite => "finite_number"
  | .choice _ => "enum"
  | .noTag _ => "union_tag_not_found"
  | .unknownTag .. => "union_tag_invalid"
  | .attributes => "model_attributes_type"
  | .stated _ => "value_error"

/-- Alternatives between quotation marks, the last one after `or`. -/
def alternatives : List String → String
  | [] => ""
  | [only] => s!"'{only}'"
  | [one, other] => s!"'{one}' or '{other}'"
  | first :: rest => s!"'{first}', " ++ alternatives rest

/-- Names between quotation marks, with commas. -/
def enumerated (names : List String) : String :=
  String.intercalate ", " (names.map fun name => s!"'{name}'")

/-- The wording of a fault. -/
def message : Fault → String
  | .missing => "Field required"
  | .extra => "Extra inputs are not permitted"
  | .key => "Keys should be strings"
  | .text => "Input should be a valid string"
  | .list => "Input should be a valid list"
  | .set => "Input should be a valid set"
  | .mapping => "Input should be a valid dictionary"
  | .path => "Input is not a valid path for <class 'pathlib.Path'>"
  | .model name => s!"Input should be a valid dictionary or instance of {name}"
  | .boolean => "Input should be a valid boolean"
  | .booleanForm => "Input should be a valid boolean, unable to interpret input"
  | .integer => "Input should be a valid integer"
  | .integerForm => "Input should be a valid integer, unable to parse string as an integer"
  | .integerSize => "Unable to parse input string as an integer, exceeded maximum size"
  | .fraction => "Input should be a valid integer, got a number with a fractional part"
  | .notFinite => "Input should be a finite number"
  | .choice choices => "Input should be " ++ alternatives choices
  | .noTag tag => s!"Unable to extract tag using discriminator '{tag}'"
  | .unknownTag tag found expected =>
    s!"Input tag '{found}' found using '{tag}' does not match any of the expected tags: " ++
      enumerated expected
  | .attributes => "Input should be a valid dictionary or object to extract fields from"
  | .stated reason => s!"Value error, {reason}"

end Fault

/-- A fault and where it is. -/
structure Issue where
  fault : Fault
  location : List Place := []
  deriving DecidableEq

/-- A value that was read, or the issues that prevented it. -/
inductive Checked (α : Type) where
  | ok (value : α)
  | bad (issues : List Issue)

namespace Checked

variable {α β : Type}

def map (f : α → β) : Checked α → Checked β
  | ok value => ok (f value)
  | bad issues => bad issues

/-- Reads a function and its argument, with the issues of both. -/
def apply (f : Checked (α → β)) (x : Checked α) : Checked β :=
  match f, x with
  | ok f, ok a => ok (f a)
  | ok _, bad issues => bad issues
  | bad issues, ok _ => bad issues
  | bad issues, bad others => bad (issues ++ others)

instance : Applicative Checked where
  map := map
  pure := ok
  seq f x := apply f (x ())

/-- A single issue. -/
def fail (fault : Fault) : Checked α := bad [⟨fault, []⟩]

/-- Issues found inside a part. -/
def inside (place : Place) : Checked α → Checked α
  | ok value => ok value
  | bad issues => bad (issues.map fun issue => { issue with location := place :: issue.location })

/-- A further reading of what was read. -/
def andThen (x : Checked α) (f : α → Checked β) : Checked β :=
  match x with
  | ok value => f value
  | bad issues => bad issues

/-- Every item, with the issues of all of them by their positions. -/
def each (read : α → Checked β) (items : List α) : Checked (List β) :=
  go 0 items
where
  go (position : Nat) : List α → Checked (List β)
    | [] => ok []
    | item :: rest =>
      List.cons <$> inside (.index position) (read item) <*> go (position + 1) rest

/-- The value, if it was read. -/
def toOption : Checked α → Option α
  | ok value => some value
  | bad _ => none

end Checked

end Ratchet
