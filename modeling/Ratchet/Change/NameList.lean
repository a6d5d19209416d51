import Ratchet.Text.Blank
import Ratchet.Text.Cut

namespace Ratchet

/-!
# Lists of names

Output that lists names, each followed by a NUL character, or by a newline if
there is no NUL in it.  Blank names are dropped.
-/

namespace NameList

/-- The character that ends the names of an output. -/
def separator (output : List Char) : Char :=
  if '\x00' ∈ output then '\x00' else '\n'

/-- The names in an output. -/
def parse (output : String) : List String :=
  (Text.pieces (separator output.toList) output).filter fun name => !Text.isBlank name

end NameList

end Ratchet
